import WifiScan.Scan.Result

/-!
# Scan events

What a request's handler is told: any number of single results, then one status that ends the
request. A `HandlerChannel` keeps the events until they are taken.
-/
namespace WifiScan

inductive ScanStatus where
  | resultsAvailable
  | failed
  deriving DecidableEq, Repr

inductive ScanEvent where
  /-- A result, with the bucket that it belongs to. -/
  | fullResult (result : ScanResult) (bucket : Nat)
  | status (status : ScanStatus)
  deriving DecidableEq, Repr

namespace ScanEvent

def status? : ScanEvent → Option ScanStatus
  | fullResult _ _ => none
  | status s => some s

def isTerminal (e : ScanEvent) : Bool := e.status?.isSome

end ScanEvent

/-- The events told to a handler and not yet taken; without a receiver they are dropped. -/
structure HandlerChannel where
  pending : List ScanEvent
  hasReceiver : Bool
  deriving DecidableEq, Repr

namespace HandlerChannel

def empty : HandlerChannel := ⟨[], true⟩

def tell (h : HandlerChannel) (e : ScanEvent) : HandlerChannel :=
  if h.hasReceiver then { h with pending := h.pending ++ [e] } else h

def dropReceiver (_ : HandlerChannel) : HandlerChannel := ⟨[], false⟩

/-- The oldest event, which is taken. -/
def take (h : HandlerChannel) : Option ScanEvent × HandlerChannel :=
  (h.pending.head?, { h with pending := h.pending.tail })

end HandlerChannel

end WifiScan

import WifiScan.Engine.Request
import WifiScan.Scan.Event

/-!
# Effects of the engine

What the engine does to others, in the order in which it does it: commands to the driver and to the
timers, data put in place of the latest, and calls on the handlers of requests.
-/
namespace WifiScan

/-- How and why a request ended. -/
inductive Ending where
  | completed
  | failed (reason : FailureReason)
  deriving DecidableEq, Repr

/-- What the handler is told; it does not learn why a request failed. -/
def Ending.status : Ending → ScanStatus
  | completed => .resultsAvailable
  | failed _ => .failed

inductive Effect where
  | command (scanClass : ScanClass) (frequencies : FrequencySet) (hidden : NetworkIds)
      (accepted : Bool)
  /-- The raw results were taken from the driver. -/
  | fetch (scanClass : ScanClass) (raw : List ScanResult)
  | arm (tag : TimerTag) (delayMs : UInt64)
  | disarm (scanClass : ScanClass)
  /-- The latest results of a class were replaced. -/
  | store (scanClass : ScanClass) (data : ScanData)
  /-- A request's handler was told of one result. -/
  | report (request : TimerTag) (handler : Handler) (result : ScanResult) (bucket : Nat)
  /-- A request's handler was told that the request ended. -/
  | finish (request : TimerTag) (handler : Handler) (ending : Ending)
  deriving DecidableEq

namespace Effect

/-- What an effect tells which handler. -/
def told? : Effect → Option (Handler × ScanEvent)
  | report _ h result bucket => some (h, .fullResult result bucket)
  | finish _ h ending => some (h, .status ending.status)
  | _ => none

def scanClass : Effect → ScanClass
  | command c .. | fetch c _ | disarm c | store c _ => c
  | arm tag _ | report tag .. | finish tag .. => tag.scanClass

end Effect

end WifiScan

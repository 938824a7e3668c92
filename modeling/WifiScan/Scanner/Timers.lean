import WifiScan.Engine.Request
import WifiScan.Wait

/-!
# Timers

One timer for each request class, in virtual time, which passes only when somebody sleeps. Arming a
timer puts it in place of the class's timer before it. A timer posts its tag once, at its deadline,
unless nobody is left to read what it posts.
-/
namespace WifiScan

structure ArmedTimer where
  tag : TimerTag
  deadline : Nat
  deriving DecidableEq, Repr

/-- The timers that have not fired. -/
abbrev Timers := PerClass (Option ArmedTimer)

variable [Wait]

namespace Timers

def idle : Timers := .both none

/-- Arms the timer of the tag's class to fire after a wait of `delayMs`. -/
def arm (t : Timers) (now : Nat) (tag : TimerTag) (delayMs : UInt64) : Timers :=
  t.set tag.scanClass (some ⟨tag, Wait.finish now delayMs⟩)

def disarm (t : Timers) (c : ScanClass) : Timers := t.set c none

/-- The timers that have not fired, the single scan's first. -/
def armed (t : Timers) : List ArmedTimer := ScanClass.all.filterMap t.get

/-- The timer with the first deadline; of two with the same deadline, the single scan's. -/
def next? (t : Timers) : Option ArmedTimer :=
  t.armed.foldl
    (fun best a =>
      match best with
      | none => some a
      | some b => if a.deadline < b.deadline then some a else some b)
    none

end Timers

/-- Timers, the time, and the queue that they post to. -/
structure TimerService where
  now : Nat
  timers : Timers
  active : Bool
  /-- Whether somebody holds the queue open. -/
  queueOpen : Bool
  deriving DecidableEq

namespace TimerService

def initial : TimerService := ⟨0, .idle, true, true⟩

def arm (s : TimerService) (tag : TimerTag) (delayMs : UInt64) : TimerService :=
  if s.active then { s with timers := s.timers.arm s.now tag delayMs } else s

def disarm (s : TimerService) (c : ScanClass) : TimerService :=
  { s with timers := s.timers.disarm c }

/-- Ends the service; no timer fires any more. -/
def drop (s : TimerService) : TimerService := { s with timers := .idle, active := false }

/-- Closes the queue; timers go on, and post nothing. -/
def closeQueue (s : TimerService) : TimerService := { s with queueOpen := false }

/-- Fires the timers due by a time, in the order of their deadlines. No more timers fire than are
armed, which bounds the number of steps. -/
def fireUntil : Nat → Nat → TimerService → TimerService × List TimerTag
  | 0, _, s => (s, [])
  | fuel + 1, limit, s =>
    match s.timers.next? with
    | none => (s, [])
    | some a =>
      if a.deadline ≤ limit then
        let (s', tags) := fireUntil fuel limit (s.disarm a.tag.scanClass)
        (s', if s.queueOpen then a.tag :: tags else tags)
      else (s, [])

def settle (s : TimerService) : TimerService × List TimerTag :=
  fireUntil s.timers.armed.length s.now s

/-- Lets time pass, and fires the timers that fall due. -/
def sleep (s : TimerService) (ms : UInt64) : TimerService × List TimerTag :=
  let limit := Wait.finish s.now ms
  let (s', tags) := fireUntil s.timers.armed.length limit s
  ({ s' with now := limit }, tags)

end TimerService

end WifiScan

import WifiScan.Engine.Basic
import WifiScan.Scanner.Timers

/-!
# The scanner

The scanner serves commands one after another with an engine and its timers. It stops at a shutdown,
or when nobody can command it any more; a request still in flight fails then, and no timer is left.
Commands that wait behind a shutdown are never served.
-/
namespace WifiScan

inductive Command where
  | start (scanClass : ScanClass) (settings : Option ScanSettings) (handler : Option Handler)
  | driverEvent (event : DriverEvent)
  | timerFired (tag : TimerTag)
  | latest (scanClass : ScanClass)
  | scanning (scanClass : ScanClass)
  | shutdown
  deriving DecidableEq

/-- What a command brings its caller. -/
inductive Reply where
  /-- The request is admitted, or the message is posted. -/
  | done
  | data (data : ScanData)
  | scanning (value : Bool)
  deriving DecidableEq, Repr

abbrev Answer := Except ScanError Reply

/-- The answer to a command that is queued and never served: who waits for a reply learns that the
scanner has stopped, who only posts a message learns nothing. -/
def Command.unserved : Command → Answer
  | start .. | latest _ | scanning _ => .error .unavailable
  | driverEvent _ | timerFired _ | shutdown => .ok .done

variable [Wait]

namespace Timers

/-- Carries out what an effect says about the timers. -/
def apply (now : Nat) (t : Timers) : Effect → Timers
  | .arm tag delayMs => t.arm now tag delayMs
  | .disarm c => t.disarm c
  | _ => t

end Timers

structure Scanner (σ : Type) where
  engine : Engine σ
  timers : Timers
  running : Bool

namespace Scanner

variable {σ : Type}

def initial (config : EngineConfig) (driver : σ) : Scanner σ :=
  ⟨.initial config driver, .idle, true⟩

/-- The scanner after an operation of its engine at a time. -/
def after (s : Scanner σ) (time : Nat) (outcome : Engine σ × List Effect) :
    Scanner σ × List Effect :=
  ({ s with engine := outcome.1, timers := outcome.2.foldl (Timers.apply time) s.timers },
    outcome.2)

/-- Stops a running scanner: requests in flight fail, and no timer is left. -/
def stop (s : Scanner σ) : Scanner σ × List Effect :=
  if s.running then
    let (engine, effects) := s.engine.failAll .scannerStopped
    (⟨engine, .idle, false⟩, effects)
  else (s, [])

variable [ScanDriver σ]

/-- Serves one command at a time and a reading of the clock. -/
def serve (s : Scanner σ) (time : Nat) (now : UInt64) (c : Command) :
    Scanner σ × List Effect × Answer :=
  if s.running then
    match c with
    | .start c settings handler =>
      match s.engine.start now c settings handler with
      | .error e => (s, [], .error e)
      | .ok outcome => let (s, effects) := s.after time outcome; (s, effects, .ok .done)
    | .driverEvent event =>
      let (s, effects) := s.after time (s.engine.onDriverEvent now event)
      (s, effects, .ok .done)
    | .timerFired tag =>
      let (s, effects) := s.after time (s.engine.onTimeout tag)
      (s, effects, .ok .done)
    | .latest c => (s, [], .ok (.data (s.engine.latest c)))
    | .scanning c => (s, [], .ok (.scanning (s.engine.isScanning c)))
    | .shutdown => let (s, effects) := s.stop; (s, effects, .ok .done)
  else
    -- The command was queued behind a shutdown.
    (s, [], c.unserved)

def serveAll (s : Scanner σ) (time : Nat) (now : UInt64) :
    List Command → Scanner σ × List Effect × List Answer
  | [] => (s, [], [])
  | c :: cs =>
    let (s, effects, answer) := s.serve time now c
    let (s, more, answers) := s.serveAll time now cs
    (s, effects ++ more, answer :: answers)

/-- Queues commands and serves them. Nothing can be queued at a scanner that has stopped. -/
def call (s : Scanner σ) (time : Nat) (now : UInt64) (cs : List Command) :
    Scanner σ × List Effect × List Answer :=
  if s.running then s.serveAll time now cs else (s, [], cs.map fun _ => .error .unavailable)

end Scanner

end WifiScan

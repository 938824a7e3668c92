import WifiScan.Scanner.Basic
import WifiScan.Simulation.Radio

/-!
# A station in virtual time

A scanner over a virtual driver, with or without a radio that serves the scans it issues. Time
passes only while somebody sleeps: timers and the radio's scans then fall due one after another, and
all that each of them causes happens at its moment.

The clock is a function of the time. It gives the readings that the engine and the driver take.
-/
namespace WifiScan

structure Station where
  /-- Milliseconds since the start. -/
  time : Nat
  scanner : Scanner VirtualDriver
  radio : Option Radio
  /-- Whether the caller holds a handle on the scanner; the radio holds one of its own. -/
  attached : Bool

namespace Station

/-- A station with nothing requested yet. With a radio the driver has a subscriber from the
start. -/
def initial (config : EngineConfig) (driver : VirtualDriver) (radio : Option RadioConfig) :
    Station where
  time := 0
  scanner := .initial config (if radio.isSome then driver.subscribe else driver)
  radio := radio.map .initial
  attached := true

def driver (s : Station) : VirtualDriver := s.scanner.engine.driver

def setDriver (s : Station) (d : VirtualDriver) : Station :=
  { s with scanner := { s.scanner with engine := { s.scanner.engine with driver := d } } }

variable [Wait]

/-- Hands the radio the scans that the driver took, and starts it on the next one. A radio with
nothing left to serve ends when the scanner has stopped. -/
def feedRadio (s : Station) : Station :=
  match s.radio with
  | none => s
  | some r =>
    if r.done then s
    else
      -- What was taken before the scanner stopped is still served.
      let (scans, driver) := s.driver.drain
      let r := (r.enqueue scans).begin? s.time
      let s := s.setDriver driver
      { s with radio := some (if r.serving.isNone && !s.scanner.running then r.stop else r) }

inductive Due where
  | timer (timer : ArmedTimer)
  | radio (service : RadioService)
  deriving DecidableEq, Repr

def Due.time : Due → Nat
  | timer a => a.deadline
  | radio s => s.dueAt

/-- What falls due first; a scan goes before a timer of the same moment. -/
def nextDue? (s : Station) : Option Due :=
  match s.scanner.timers.next?, s.radio.bind (·.serving) with
  | none, none => none
  | some a, none => some (.timer a)
  | none, some b => some (.radio b)
  | some a, some b => some (if a.deadline < b.dueAt then .timer a else .radio b)

/-- How many things can still fall due. Each that does leaves one less. -/
def load (s : Station) : Nat := s.scanner.timers.armed.length + (s.radio.elim 0 Radio.load)

/-- Lets something fall due. A timer tells the scanner its tag. The radio tells the scanner how the
scan ended, or stops if the scanner has stopped before; a silent one goes on to the next scan. -/
def fire (clock : Nat → UInt64) (s : Station) (due : Due) : Station × List Effect :=
  let s := { s with time := max s.time due.time }
  match due with
  | .timer a =>
    -- The timer is gone before the scanner hears of it.
    let scanner := { s.scanner with timers := s.scanner.timers.disarm a.tag.scanClass }
    let (scanner, effects, _) := scanner.serve s.time (clock s.time) (.timerFired a.tag)
    ({ s with scanner }, effects)
  | .radio b =>
    match s.radio with
    | none => (s, [])
    | some r =>
      match r.report? b with
      | none => ({ s with radio := some r.release }.feedRadio, [])
      | some event =>
        if s.scanner.running then
          let (scanner, effects, _) :=
            s.scanner.serve s.time (clock s.time) (.driverEvent event)
          ({ s with scanner, radio := some r.release }.feedRadio, effects)
        else
          -- Nobody is left to report to.
          ({ s with radio := some r.stop }, [])

/-- Lets everything happen that falls due by a time, in order. -/
def runUntil (clock : Nat → UInt64) : Nat → Nat → Station → Station × List Effect
  | 0, _, s => (s, [])
  | fuel + 1, limit, s =>
    match s.nextDue? with
    | none => (s, [])
    | some due =>
      if due.time ≤ limit then
        let (s, effects) := s.fire clock due
        let (s, more) := runUntil clock fuel limit s
        (s, effects ++ more)
      else (s, [])

/-- Lets everything happen that is due now. -/
def settle (clock : Nat → UInt64) (s : Station) : Station × List Effect :=
  let s := s.feedRadio
  runUntil clock s.load s.time s

/-- Queues commands at the scanner, which serves them all before anything else happens. -/
def call (clock : Nat → UInt64) (s : Station) (cs : List Command) :
    Station × List Effect × List Answer :=
  let (scanner, effects, answers) := s.scanner.call s.time (clock s.time) cs
  let (s, more) := { s with scanner }.settle clock
  (s, effects ++ more, answers)

def sleep (clock : Nat → UInt64) (s : Station) (ms : UInt64) : Station × List Effect :=
  let limit := Wait.finish s.time ms
  let (s, effects) := runUntil clock s.load limit s
  ({ s with time := limit }, effects)

/-- Gives up the caller's handle. Unless the radio still holds one, the scanner stops. -/
def detach (clock : Nat → UInt64) (s : Station) : Station × List Effect :=
  let s := { s with attached := false }
  if s.radio.any (!·.done) then (s, [])
  else
    let (scanner, effects) := s.scanner.stop
    let (s, more) := { s with scanner }.settle clock
    (s, effects ++ more)

end Station

end WifiScan

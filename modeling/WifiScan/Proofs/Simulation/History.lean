import WifiScan.Proofs.Scanner.Requests
import WifiScan.Simulation.Station

/-!
# The history of a station

A station does what its callers ask, and what falls due as time passes. Its history lists what
happened one by one and keeps apart what the radio reported (`Incident`). It is the same as what the
station does (`call_eq_act`, `sleep_eq_act`, `detach_eq_act`). The radio ends scans in the order in
which the driver took them, so a history shows which request each report is about (`outstanding`).
-/
namespace WifiScan

/-- Something done to a station from outside. -/
inductive Deed where
  | call (commands : List Command) (callers : ∀ c ∈ commands, c.isCallers = true)
  | change (change : VirtualDriver.Change)
  | sleep (ms : UInt64)
  | detach

/-- Something that happened at a station, with its effects. -/
inductive Incident where
  /-- Commands were served, or a timer fired. -/
  | acted (effects : List Effect)
  /-- The radio ended a scan, and perhaps reported it. -/
  | ended (effects : List Effect)
  deriving DecidableEq

def Incident.effects : Incident → List Effect
  | acted effects | ended effects => effects

/-- The requests whose scans the radio has still to end, after one more incident. -/
def Incident.carry (waiting : List TimerTag) : Incident → List TimerTag
  | acted effects => waiting ++ armedBy effects
  | ended _ => waiting.tail

/-- The requests whose commands the driver took and whose scans the radio has still to end, in the
order of the commands. -/
def outstanding (log : List Incident) : List TimerTag := log.foldl Incident.carry []

theorem outstanding_concat (log : List Incident) (i : Incident) :
    outstanding (log ++ [i]) = i.carry (outstanding log) := by
  rw [outstanding, List.foldl_append, ← outstanding]
  rfl

namespace Station

variable (clock : Nat → UInt64)

/-- What it is that falls due, as an incident with its effects. -/
def Due.incident (due : Due) (effects : List Effect) : Incident :=
  match due with
  | timer _ => .acted effects
  | radio _ => .ended effects

theorem Due.effects_incident (due : Due) (effects : List Effect) :
    (due.incident effects).effects = effects := by
  cases due <;> rfl

variable [Wait]

/-- Lets everything happen that falls due by a time, and lists it. -/
def elapse : Nat → Nat → Station → Station × List Incident
  | 0, _, s => (s, [])
  | fuel + 1, limit, s =>
    match s.nextDue? with
    | none => (s, [])
    | some due =>
      if due.time ≤ limit then
        let (s, effects) := s.fire clock due
        let (s, log) := elapse fuel limit s
        (s, due.incident effects :: log)
      else (s, [])

/-- Does one thing to a station, and lists what happens. -/
def act (s : Station) : Deed → Station × List Incident
  | .call cs _ =>
    let (scanner, effects, _) := s.scanner.call s.time (clock s.time) cs
    let s := { s with scanner }.feedRadio
    let (s, log) := elapse clock s.load s.time s
    (s, .acted effects :: log)
  | .change change => (s.setDriver (change.apply s.driver), [])
  | .sleep ms =>
    let limit := Wait.finish s.time ms
    let (s, log) := elapse clock s.load limit s
    ({ s with time := limit }, log)
  | .detach =>
    let s := { s with attached := false }
    if s.radio.any (!·.done) then (s, [])
    else
      let (scanner, effects) := s.scanner.stop
      let s := { s with scanner }.feedRadio
      let (s, log) := elapse clock s.load s.time s
      (s, .acted effects :: log)

/-- Does things one after another. -/
def history (s : Station) : List Deed → Station × List Incident
  | [] => (s, [])
  | deed :: deeds =>
    let (s, log) := s.act clock deed
    let (s, more) := history s deeds
    (s, log ++ more)

/-! ### A history is what the station does -/

theorem runUntil_eq_elapse (fuel limit : Nat) (s : Station) :
    runUntil clock fuel limit s =
      ((elapse clock fuel limit s).1, (elapse clock fuel limit s).2.flatMap Incident.effects) := by
  induction fuel generalizing s with
  | zero => rfl
  | succ fuel ih =>
    rw [runUntil, elapse]
    cases s.nextDue? with
    | none => rfl
    | some due =>
      -- Either runs on from the same station, or both stop.
      by_cases now : due.time ≤ limit
      · simp only [if_pos now, ih, List.flatMap_cons, Due.effects_incident]
      · simp only [if_neg now, List.flatMap_nil]

theorem call_eq_act (s : Station) (cs : List Command) (callers : ∀ c ∈ cs, c.isCallers = true) :
    (s.call clock cs).1 = (s.act clock (.call cs callers)).1 ∧
      (s.call clock cs).2.1 = (s.act clock (.call cs callers)).2.flatMap Incident.effects := by
  simp only [call, settle, runUntil_eq_elapse, act, List.flatMap_cons, Incident.effects, and_self]

theorem sleep_eq_act (s : Station) (ms : UInt64) :
    s.sleep clock ms =
      ((s.act clock (.sleep ms)).1, (s.act clock (.sleep ms)).2.flatMap Incident.effects) := by
  simp only [sleep, runUntil_eq_elapse, act]

theorem detach_eq_act (s : Station) :
    s.detach clock =
      ((s.act clock .detach).1, (s.act clock .detach).2.flatMap Incident.effects) := by
  simp only [detach, act]
  split
  · rfl
  · simp only [settle, runUntil_eq_elapse, List.flatMap_cons, Incident.effects]

end Station

end WifiScan

import WifiScan.Proofs.Engine.DriverLog
import WifiScan.Proofs.Simulation.RadioTasks
import WifiScan.Proofs.Simulation.Stations

/-!
# What is seen of the radio of a station

The log of a station tells which commands its driver took, and these are the scans that the driver
passes on to the radio (`Scanner.subscriber_call`). What the radio tells the scanner is listed along
the way that time passes at the station (`Station.reports`), and the scanner serves it at once
(`Station.effects_fire_radio`). The scanner stops when it is told to, and never because something
falls due (`Station.elapse_running`).
-/
namespace WifiScan

/-! ### What the driver of a station takes -/

/-- The scan of a command that the driver took. -/
def Exchange.taken? : Exchange → Option IssuedScan
  | command c frequencies hidden true => some ⟨c, frequencies, hidden⟩
  | _ => none

/-- The scans that a log tells that the driver took. -/
def takenIn (effects : List Effect) : List IssuedScan :=
  (exchanges effects).filterMap Exchange.taken?

theorem takenIn_append (fx more : List Effect) :
    takenIn (fx ++ more) = takenIn fx ++ takenIn more := by
  rw [takenIn, exchanges_append, List.filterMap_append, ← takenIn, ← takenIn]

namespace Scanner

variable {s : Scanner VirtualDriver} {queue : List IssuedScan}

theorem subscriber_launch {e : Engine VirtualDriver} (subscriber : e.driver.subscriber = some queue)
    (r : Request) :
    (e.launch r).1.driver.subscriber = some (queue ++ takenIn (e.launch r).2) := by
  cases accepting : e.driver.accepting <;>
    simp [Engine.launch, ScanDriver.command, VirtualDriver.command, accepting, subscriber, takenIn,
      exchanges, Effect.exchange?, Exchange.taken?]

theorem takenIn_onDriverEvent (e : Engine VirtualDriver) (now : UInt64) (event : DriverEvent) :
    takenIn (e.onDriverEvent now event).2 = [] := by
  rw [Engine.onDriverEvent]
  split
  · cases event.kind with
    | resultsAvailable =>
      cases flight : e.inFlight? event.scanClass with
      | none =>
        rw [Engine.complete_of_idle flight]
        rfl
      | some r =>
        rw [takenIn, Engine.exchanges_complete flight]
        rfl
    | scanFailed =>
      rw [takenIn, Engine.exchanges_fail]
      rfl
  · rfl

theorem takenIn_onTimeout (e : Engine VirtualDriver) (tag : TimerTag) :
    takenIn (e.onTimeout tag).2 = [] := by
  rw [Engine.onTimeout]
  split
  · rw [takenIn, Engine.exchanges_fail]
    rfl
  · rfl

theorem stop_driver (s : Scanner VirtualDriver) :
    s.stop.1.engine.driver = s.engine.driver ∧ takenIn s.stop.2 = [] := by
  rw [stop]
  split
  · refine ⟨Engine.failAll_driver .., ?_⟩
    change takenIn (s.engine.failAll .scannerStopped).2 = []
    rw [takenIn, Engine.exchanges_failAll]
    rfl
  · exact ⟨rfl, rfl⟩

variable [Wait]

/-- The subscriber of the driver is told of the scans that the log tells of. -/
theorem subscriber_serve (subscriber : s.engine.driver.subscriber = some queue) (time : Nat)
    (now : UInt64) (command : Command) :
    (s.serve time now command).1.engine.driver.subscriber =
      some (queue ++ takenIn (s.serve time now command).2.1) := by
  have nothing : queue ++ takenIn [] = queue := List.append_nil queue
  by_cases running : s.running = true
  · -- Only a request that is started passes a scan on.
    cases command with
    | start c settings handler =>
      cases started : s.engine.start now c settings handler with
      | error error =>
        simp only [serve, running, if_true, started, subscriber, nothing]
      | ok out =>
        obtain ⟨settings, h, -, -, -, -, rfl⟩ := (Engine.start_eq_ok_iff ..).1 started
        simp only [serve, running, if_true, started]
        exact subscriber_launch subscriber _
    | driverEvent event =>
      have same := (s.serve_signal time now (.driverEvent event) rfl).1
      rw [same, subscriber]
      simp [serve, running, after, takenIn_onDriverEvent]
    | timerFired tag =>
      have same := (s.serve_signal time now (.timerFired tag) rfl).1
      rw [same, subscriber]
      simp [serve, running, after, takenIn_onTimeout]
    | latest c => simp only [serve, running, if_true, subscriber, nothing]
    | scanning c => simp only [serve, running, if_true, subscriber, nothing]
    | shutdown =>
      simp only [serve, running, if_true, s.stop_driver, subscriber, List.append_nil]
  · have idle : s.serve time now command = (s, [], command.unserved) := if_neg running
    rw [idle]
    exact subscriber.trans (congrArg some nothing.symm)

theorem subscriber_serveAll (subscriber : s.engine.driver.subscriber = some queue) (time : Nat)
    (now : UInt64) (commands : List Command) :
    (s.serveAll time now commands).1.engine.driver.subscriber =
      some (queue ++ takenIn (s.serveAll time now commands).2.1) := by
  induction commands generalizing s queue with
  | nil => exact subscriber.trans (congrArg some (List.append_nil queue).symm)
  | cons command commands ih =>
    rw [serveAll, takenIn_append, ← List.append_assoc]
    exact ih (subscriber_serve subscriber time now command)

theorem subscriber_call (subscriber : s.engine.driver.subscriber = some queue) (time : Nat)
    (now : UInt64) (commands : List Command) :
    (s.call time now commands).1.engine.driver.subscriber =
      some (queue ++ takenIn (s.call time now commands).2.1) := by
  rw [call]
  split
  · exact subscriber_serveAll subscriber time now commands
  · exact subscriber.trans (congrArg some (List.append_nil queue).symm)

/-- What a driver or a timer tells a scanner does not stop it. -/
theorem running_signal (s : Scanner VirtualDriver) (time : Nat) (now : UInt64) (command : Command)
    (signal : command.isCallers = false) :
    (s.serve time now command).1.running = s.running := by
  by_cases running : s.running = true
  · cases command with
    | driverEvent event => simp [serve, running, after]
    | timerFired tag => simp [serve, running, after]
    | start c settings handler => cases signal
    | latest c => cases signal
    | scanning c => cases signal
    | shutdown => cases signal
  · simp [serve, running]

/-- A scanner that has stopped takes nothing and does not start again. -/
theorem call_stopped (stopped : s.running = false) (time : Nat) (now : UInt64)
    (commands : List Command) :
    (s.call time now commands).1 = s ∧ (s.call time now commands).2.1 = [] := by
  rw [call, stopped]
  exact ⟨rfl, rfl⟩

end Scanner

/-! ### What is seen of the radio of a station -/

/-- What is seen of a radio. -/
@[ext]
structure RadioLog where
  /-- The scans that the driver took. -/
  taken : List TakenScan := []
  /-- What the scanner was told, and when. -/
  told : List (Nat × DriverEvent) := []
  /-- When the scanner stopped. -/
  stopped : List Nat := []
  deriving DecidableEq

namespace RadioLog

instance : Append RadioLog where
  append log more := ⟨log.taken ++ more.taken, log.told ++ more.told, log.stopped ++ more.stopped⟩

theorem append_eq (log more : RadioLog) : log ++ more =
    ⟨log.taken ++ more.taken, log.told ++ more.told, log.stopped ++ more.stopped⟩ := rfl

theorem append_assoc (log more rest : RadioLog) : log ++ more ++ rest = log ++ (more ++ rest) := by
  simp only [append_eq, List.append_assoc]

theorem append_nothing (log : RadioLog) : log ++ {} = log := by
  simp only [append_eq, List.append_nil]

end RadioLog

namespace Station

/-- What the radio tells the scanner when something falls due. -/
def report? (s : Station) : Due → Option DriverEvent
  | .timer _ => none
  | .radio b => if s.scanner.running then s.radio.bind (·.report? b) else none

variable [Wait] (clock : Nat → UInt64)

/-- What the radio tells the scanner until a time, and when. -/
def reportsUntil : Nat → Nat → Station → List (Nat × DriverEvent)
  | 0, _, _ => []
  | fuel + 1, limit, s =>
    match s.nextDue? with
    | none => []
    | some due =>
      if due.time ≤ limit then
        ((s.report? due).map (max s.time due.time, ·)).toList ++
          reportsUntil fuel limit (s.fire clock due).1
      else []

/-- What the radio tells the scanner while one thing is done, and when. -/
def reports (s : Station) : Deed → List (Nat × DriverEvent)
  | .call cs _ =>
    let s := { s with scanner := (s.scanner.call s.time (clock s.time) cs).1 }.feedRadio
    reportsUntil clock s.load s.time s
  | .change _ => []
  | .sleep ms => reportsUntil clock s.load (Wait.finish s.time ms) s
  | .detach =>
    if s.radio.any (!·.done) then []
    else
      let s := { s with attached := false, scanner := s.scanner.stop.1 }.feedRadio
      reportsUntil clock s.load s.time s

/-- The scans that the driver takes while one thing is done. -/
def takings (s : Station) : Deed → List TakenScan
  | .call cs _ => (takenIn (s.scanner.call s.time (clock s.time) cs).2.1).map (⟨s.time, ·⟩)
  | _ => []

/-- The moment at which the scanner stops, if it does while one thing is done. -/
def stops (s : Station) (deed : Deed) : List Nat :=
  if s.scanner.running && !(s.act clock deed).1.scanner.running then [s.time] else []

/-- What is seen of the radio while things are done one after another. -/
def radioLog (s : Station) : List Deed → RadioLog
  | [] => {}
  | deed :: deeds =>
    ⟨s.takings clock deed, s.reports clock deed, s.stops clock deed⟩ ++
      radioLog (s.act clock deed).1 deeds

/-- The scanner serves what the radio tells it, and nothing else happens when a scan ends. -/
theorem effects_fire_radio (s : Station) (b : RadioService) :
    (s.fire clock (.radio b)).2 = (s.report? (.radio b)).elim [] fun event =>
      let now := max s.time b.dueAt
      (s.scanner.serve now (clock now) (.driverEvent event)).2.1 := by
  cases radio : s.radio with
  | none => simp [fire, report?, radio]
  | some r =>
    cases told : r.report? b with
    | none => simp [fire, report?, radio, told]
    | some event => cases running : s.scanner.running <;>
        simp [fire, report?, radio, told, running, Due.time]

/-- Nothing that falls due stops the scanner. -/
theorem fire_running (s : Station) (due : Due) :
    (s.fire clock due).1.scanner.running = s.scanner.running := by
  cases due with
  | timer a =>
    exact { s.scanner with timers := s.scanner.timers.disarm a.tag.scanClass }.running_signal
      (max s.time a.deadline) (clock (max s.time a.deadline)) (.timerFired a.tag) rfl
  | radio b =>
    cases radio : s.radio with
    | none => simp only [fire, radio]
    | some r =>
      cases told : r.report? b with
      | none => simp only [fire, radio, told, feedRadio_frame]
      | some event =>
        cases running : s.scanner.running with
        | true =>
          simp only [fire, radio, told, running, if_true, feedRadio_frame]
          exact (s.scanner.running_signal _ _ (.driverEvent event) rfl).trans running
        | false =>
          simp only [fire, radio, told, running]
          exact running

theorem elapse_running (fuel limit : Nat) (s : Station) :
    (elapse clock fuel limit s).1.scanner.running = s.scanner.running := by
  induction fuel generalizing s with
  | zero => rfl
  | succ fuel ih =>
    rw [elapse]
    cases s.nextDue? with
    | none => rfl
    | some due =>
      by_cases now : due.time ≤ limit
      · simp only [if_pos now, ih, fire_running]
      · simp only [if_neg now]

theorem stops_of_same {s : Station} {deed : Deed}
    (same : (s.act clock deed).1.scanner.running = s.scanner.running) :
    s.stops clock deed = [] := by
  rw [stops, same, Bool.and_not_self]
  rfl

end Station

end WifiScan

import WifiScan.Proofs.Engine.Unaddressed
import WifiScan.Proofs.Scanner.Service
import WifiScan.Proofs.Scanner.Timers

/-!
# Requests of a scanner over a virtual driver

A scanner that serves a command does one of four things as far as its requests are concerned: it
takes one on, ends one, stops, or leaves them alone. The timers and the driver's queue of taken
commands follow, so that each request in flight has its timer (`Scanner.Sound`).
-/
namespace WifiScan

/-- Whether callers give a command; the others come from drivers and timers. -/
def Command.isCallers : Command → Bool
  | driverEvent _ | timerFired _ => false
  | start .. | latest _ | scanning _ | shutdown => true

namespace Engine

/-! ### Ending a request -/

variable [Wait]

/-- The request in flight of a class is ended: its handler and its timer learn of it, and nothing
else changes. -/
structure Ends (e : Engine VirtualDriver) (c : ScanClass) (r : Request)
    (out : Engine VirtualDriver × List Effect) : Prop where
  config : out.1.config = e.config
  driver : out.1.driver = e.driver
  inFlight : ∀ d, out.1.inFlight? d = if d = c then none else e.inFlight? d
  armed : armedBy out.2 = []
  timers : ∀ now t, out.2.foldl (Timers.apply now) t = t.disarm c
  told : ∃ ending, .finish r.tag r.handler ending ∈ out.2

omit [Wait] in
private theorem inFlight?_set (e : Engine VirtualDriver) (c : ScanClass) (lane : Lane)
    (d : ScanClass) :
    Engine.inFlight? { e with lanes := e.lanes.set c lane } d =
      if d = c then lane.inFlight else e.inFlight? d := by
  simp only [inFlight?, PerClass.get_set]
  split <;> rfl

theorem fail_ends {e : Engine VirtualDriver} {c : ScanClass} {r : Request}
    (flight : e.inFlight? c = some r) (reason : FailureReason) : e.Ends c r (e.fail c reason) := by
  have at? : (e.lanes.get c).inFlight = some r := flight
  simp only [fail, at?]
  exact ⟨rfl, rfl, inFlight?_set e c _, rfl, fun _ _ => rfl, .failed reason, by simp⟩

theorem complete_ends {e : Engine VirtualDriver} {c : ScanClass} {r : Request}
    (flight : e.inFlight? c = some r) (now : UInt64) : e.Ends c r (e.complete now c) := by
  have at? : (e.lanes.get c).inFlight = some r := flight
  simp only [complete, at?]
  refine ⟨rfl, rfl, inFlight?_set e c _, ?_, fun time t => ?_, .completed, by simp⟩
  · simp only [armedBy_append, List.append_eq_nil_iff]
    refine ⟨⟨rfl, List.filterMap_eq_nil_iff.2 ?_⟩, rfl⟩
    intro effect member
    obtain ⟨_, _, rfl⟩ := eq_report_of_mem_fullReports member
    rfl
  · simp only [List.foldl_append, List.foldl_cons, List.foldl_nil, Timers.apply]
    exact Timers.foldl_apply_fullReports r _ time _

/-- What the driver of the engine says about a class ends the request in flight of the class. -/
theorem onDriverEvent_cases {e : Engine VirtualDriver} {event : DriverEvent}
    (own : event.interface = e.driver.interface) (now : UInt64) :
    e.inFlight? event.scanClass = none ∧ e.onDriverEvent now event = (e, []) ∨
      ∃ r, e.inFlight? event.scanClass = some r ∧
        e.Ends event.scanClass r (e.onDriverEvent now event) := by
  have heard : event.interface = ScanDriver.interface e.driver := own
  simp only [onDriverEvent, if_pos heard]
  cases flight : e.inFlight? event.scanClass with
  | none =>
    refine Or.inl ⟨rfl, ?_⟩
    cases event.kind with
    | resultsAvailable => exact complete_of_idle flight now
    | scanFailed => exact fail_of_idle flight .driverFailed
  | some r =>
    refine Or.inr ⟨r, rfl, ?_⟩
    cases event.kind with
    | resultsAvailable => exact complete_ends flight now
    | scanFailed => exact fail_ends flight .driverFailed

/-- The timer of the request in flight ends it. -/
theorem onTimeout_ends {e : Engine VirtualDriver} {tag : TimerTag} {r : Request}
    (flight : e.inFlight? tag.scanClass = some r) (own : r.tag = tag) :
    e.Ends tag.scanClass r (e.onTimeout tag) := by
  have epoch : r.epoch = tag.epoch := congrArg TimerTag.epoch own
  simp only [onTimeout, flight, Option.any_some, epoch, decide_true, if_true]
  exact fail_ends flight .timedOut

/-! ### Taking a request -/

/-- A request is taken on: the driver queues its command, and its timer is armed. -/
structure Takes (e : Engine VirtualDriver) (r : Request)
    (out : Engine VirtualDriver × List Effect) : Prop where
  config : out.1.config = e.config
  interface : out.1.driver.interface = e.driver.interface
  accepting : out.1.driver.accepting = true
  subscriber : ∃ scan : IssuedScan, scan.scanClass = r.scanClass ∧
    out.1.driver.subscriber = e.driver.subscriber.map (· ++ [scan])
  inFlight : ∀ d, out.1.inFlight? d = if d = r.scanClass then some r else e.inFlight? d
  armed : armedBy out.2 = [r.tag]
  timers : ∀ now t, out.2.foldl (Timers.apply now) t = t.arm now r.tag e.config.scanTimeoutMs

/-- Requests, timers and the driver's queue stay as they are. -/
structure Keeps (e : Engine VirtualDriver) (out : Engine VirtualDriver × List Effect) : Prop where
  config : out.1.config = e.config
  interface : out.1.driver.interface = e.driver.interface
  subscriber : out.1.driver.subscriber = e.driver.subscriber
  inFlight : ∀ d, out.1.inFlight? d = e.inFlight? d
  armed : armedBy out.2 = []
  timers : ∀ now t, out.2.foldl (Timers.apply now) t = t

/-- An accepting driver takes a request. -/
theorem launch_takes {e : Engine VirtualDriver} (accepting : e.driver.accepting = true)
    (r : Request) : e.Takes r (e.launch r) := by
  simp only [launch, ScanDriver.command, VirtualDriver.command, accepting, if_true]
  exact ⟨rfl, rfl, rfl, ⟨_, rfl, rfl⟩, inFlight?_set e r.scanClass _, rfl, fun _ _ => rfl⟩

theorem launch_keeps {e : Engine VirtualDriver} (refusing : e.driver.accepting = false)
    (r : Request) : e.Keeps (e.launch r) := by
  simp only [launch, ScanDriver.command, VirtualDriver.command, refusing, Bool.false_eq_true,
    if_false]
  refine ⟨rfl, rfl, rfl, ?_, rfl, fun _ _ => rfl⟩
  intro d
  refine (inFlight?_set e r.scanClass _ d).trans ?_
  split
  next same =>
    rw [same]
    rfl
  next => rfl

theorem launch_cases (e : Engine VirtualDriver) (r : Request) :
    e.Takes r (e.launch r) ∨ e.Keeps (e.launch r) := by
  cases accepting : e.driver.accepting with
  | true => exact Or.inl (launch_takes accepting r)
  | false => exact Or.inr (launch_keeps accepting r)

end Engine

namespace Scanner

/-! ### Requests and timers -/

/-- Every request in flight has a timer of its own, and no other timer is armed. -/
structure Sound (s : Scanner VirtualDriver) : Prop where
  tagged : s.engine.Tagged
  timed : ∀ c, (s.timers.get c).map ArmedTimer.tag = (s.engine.inFlight? c).map Request.tag

theorem sound_initial (config : EngineConfig) (driver : VirtualDriver) :
    (initial config driver).Sound :=
  ⟨Engine.tagged_initial config driver, fun c => by cases c <;> rfl⟩

namespace Sound

variable {s : Scanner VirtualDriver}

theorem scanClass_tag (sound : s.Sound) {c : ScanClass} {a : ArmedTimer}
    (armed : s.timers.get c = some a) :
    ∃ r, s.engine.inFlight? c = some r ∧ r.tag = a.tag ∧ a.tag.scanClass = c := by
  have timed := sound.timed c
  rw [armed] at timed
  obtain ⟨r, flight, tag⟩ := Option.map_eq_some_iff.1 timed.symm
  exact ⟨r, flight, tag, by rw [← tag]; exact sound.tagged c r flight⟩

theorem idle_iff (sound : s.Sound) (c : ScanClass) :
    s.timers.get c = none ↔ s.engine.inFlight? c = none := by
  rw [← Option.map_eq_none_iff (f := ArmedTimer.tag), sound.timed c, Option.map_eq_none_iff]

variable [Wait]

theorem after_ends (sound : s.Sound) {c : ScanClass} {r : Request}
    {out : Engine VirtualDriver × List Effect} (ends : s.engine.Ends c r out) (time : Nat) :
    (s.after time out).1.Sound ∧ (s.after time out).1.timers = s.timers.disarm c := by
  have timers : (s.after time out).1.timers = s.timers.disarm c := ends.timers time s.timers
  refine ⟨⟨?_, ?_⟩, timers⟩
  · -- What is left in flight was in flight before.
    intro d r' flight
    rw [after, ends.inFlight] at flight
    split at flight
    · cases flight
    · exact sound.tagged d r' flight
  · -- The class has lost its request and its timer.
    intro d
    rw [timers, Timers.get_disarm, after, ends.inFlight]
    split
    · rfl
    · exact sound.timed d

theorem after_takes (sound : s.Sound) {r : Request} {out : Engine VirtualDriver × List Effect}
    (takes : s.engine.Takes r out) (time : Nat) :
    (s.after time out).1.Sound ∧
      (s.after time out).1.timers =
        s.timers.arm time r.tag s.engine.config.scanTimeoutMs := by
  have timers : (s.after time out).1.timers =
      s.timers.arm time r.tag s.engine.config.scanTimeoutMs := takes.timers time s.timers
  refine ⟨⟨?_, ?_⟩, timers⟩
  · intro d r' flight
    rw [after, takes.inFlight] at flight
    split at flight
    next same =>
      cases flight
      exact same.symm
    next => exact sound.tagged d r' flight
  · -- The class has a request and the timer that was armed for it.
    intro d
    rw [timers, Timers.get_arm, after, takes.inFlight]
    change Option.map _ (if d = r.scanClass then _ else _) = _
    split
    · rfl
    · exact sound.timed d

theorem after_keeps (sound : s.Sound) {out : Engine VirtualDriver × List Effect}
    (keeps : s.engine.Keeps out) (time : Nat) :
    (s.after time out).1.Sound ∧ (s.after time out).1.timers = s.timers := by
  have timers : (s.after time out).1.timers = s.timers := keeps.timers time s.timers
  refine ⟨⟨?_, ?_⟩, timers⟩
  · intro d r' flight
    rw [after, keeps.inFlight] at flight
    exact sound.tagged d r' flight
  · intro d
    rw [timers, after, keeps.inFlight]
    exact sound.timed d

end Sound

/-! ### What a command does -/

/-- What a command that does not stop the scanner leaves as it is. -/
structure Goes (s s' : Scanner VirtualDriver) : Prop where
  running : s'.running = true
  sound : s'.Sound
  config : s'.engine.config = s.engine.config
  interface : s'.engine.driver.interface = s.engine.driver.interface

variable [Wait]

/-- A caller's command stops the scanner, or leaves the requests alone, or takes one on whose class
had none. -/
theorem serve_callers {s : Scanner VirtualDriver} (sound : s.Sound) (running : s.running = true)
    (time : Nat) (now : UInt64) {c : Command} (callers : c.isCallers = true) :
    let (s', effects, _) := s.serve time now c
    s'.running = false ∨
      s.Goes s' ∧
        (s'.engine.driver.subscriber = s.engine.driver.subscriber ∧ s'.timers = s.timers ∧
            armedBy effects = [] ∨
          ∃ (tag : TimerTag) (scan : IssuedScan), armedBy effects = [tag] ∧
            scan.scanClass = tag.scanClass ∧
            s'.engine.driver.subscriber = s.engine.driver.subscriber.map (· ++ [scan]) ∧
            s.timers.get tag.scanClass = none ∧
            s'.timers = s.timers.arm time tag s.engine.config.scanTimeoutMs) := by
  cases c with
  | start c settings handler =>
    cases started : s.engine.start now c settings handler with
    | error error =>
      simp only [serve, running, if_true, started]
      exact Or.inr ⟨⟨running, sound, rfl, rfl⟩, Or.inl ⟨trivial, trivial, rfl⟩⟩
    | ok out =>
      simp only [serve, running, if_true, started]
      obtain ⟨settings, h, -, -, -, idle, rfl⟩ := (Engine.start_eq_ok_iff ..).1 started
      right
      rcases s.engine.launch_cases (s.engine.makeRequest now c settings h) with takes | keeps
      · -- The driver takes the command.
        obtain ⟨sound', timers⟩ := sound.after_takes takes time
        obtain ⟨scan, class_eq, subscriber⟩ := takes.subscriber
        exact ⟨⟨running, sound', takes.config, takes.interface⟩,
          Or.inr ⟨_, scan, takes.armed, class_eq, subscriber, (sound.idle_iff c).2 idle, timers⟩⟩
      · -- The driver refuses it, and the request is over.
        obtain ⟨sound', timers⟩ := sound.after_keeps keeps time
        exact ⟨⟨running, sound', keeps.config, keeps.interface⟩,
          Or.inl ⟨keeps.subscriber, timers, keeps.armed⟩⟩
  | driverEvent event => cases callers
  | timerFired tag => cases callers
  | latest c =>
    simp only [serve, running, if_true]
    exact Or.inr ⟨⟨running, sound, rfl, rfl⟩, Or.inl ⟨trivial, trivial, rfl⟩⟩
  | scanning c =>
    simp only [serve, running, if_true]
    exact Or.inr ⟨⟨running, sound, rfl, rfl⟩, Or.inl ⟨trivial, trivial, rfl⟩⟩
  | shutdown =>
    simp only [serve, running, if_true]
    exact Or.inl s.stop_running

/-- A sound request of a class without one is taken, if the driver accepts. -/
theorem serve_start_takes {s : Scanner VirtualDriver} (sound : s.Sound)
    (running : s.running = true) (accepting : s.engine.driver.accepting = true) (time : Nat)
    (now : UInt64) {c : ScanClass} (idle : s.timers.get c = none) {settings : ScanSettings}
    (faultless : settings.fault? = none) (handler : Handler) :
    let (s', effects, _) := s.serve time now (.start c (some settings) (some handler))
    s.Goes s' ∧ s'.engine.driver.accepting = true ∧
      ∃ (tag : TimerTag) (scan : IssuedScan), tag.scanClass = c ∧ armedBy effects = [tag] ∧
        scan.scanClass = c ∧
        s'.engine.driver.subscriber = s.engine.driver.subscriber.map (· ++ [scan]) ∧
        s'.timers = s.timers.arm time tag s.engine.config.scanTimeoutMs := by
  -- A class without a timer has no request in flight, so nothing stands against the start.
  have started : s.engine.start now c (some settings) (some handler) =
      .ok (s.engine.launch (s.engine.makeRequest now c settings handler)) :=
    (Engine.start_eq_ok_iff ..).2
      ⟨settings, handler, rfl, rfl, faultless, (sound.idle_iff c).1 idle, rfl⟩
  simp only [serve, running, if_true, started]
  have takes := Engine.launch_takes accepting (s.engine.makeRequest now c settings handler)
  obtain ⟨sound', timers⟩ := sound.after_takes takes time
  obtain ⟨scan, ticket, subscriber⟩ := takes.subscriber
  exact ⟨⟨running, sound', takes.config, takes.interface⟩, takes.accepting, _, scan, rfl,
    takes.armed, ticket, subscriber, timers⟩

/-- A timer that fires ends the request that it was armed for. -/
theorem serve_timer {s : Scanner VirtualDriver} (sound : s.Sound) (running : s.running = true)
    (time : Nat) (now : UInt64) {c : ScanClass} {a : ArmedTimer}
    (armed : s.timers.get c = some a) :
    let (s', effects, _) :=
      { s with timers := s.timers.disarm a.tag.scanClass }.serve time now (.timerFired a.tag)
    s.Goes s' ∧ s'.engine.driver = s.engine.driver ∧ s'.timers = s.timers.disarm c ∧
      armedBy effects = [] := by
  obtain ⟨r, flight, tag, rfl⟩ := sound.scanClass_tag armed
  have ends := Engine.onTimeout_ends flight tag
  obtain ⟨sound', timers⟩ := sound.after_ends ends time
  -- The timer was disarmed before, and to disarm it again changes nothing.
  have again : (s.timers.disarm a.tag.scanClass).disarm a.tag.scanClass =
      s.timers.disarm a.tag.scanClass :=
    Timers.disarm_eq_self _ (by rw [Timers.get_disarm, if_pos rfl])
  have same : (after { s with timers := s.timers.disarm a.tag.scanClass } time
      (s.engine.onTimeout a.tag)).1 = (s.after time (s.engine.onTimeout a.tag)).1 := by
    simp only [after, ends.timers, again]
  have served : { s with timers := s.timers.disarm a.tag.scanClass }.serve time now
      (.timerFired a.tag) =
        ((s.after time (s.engine.onTimeout a.tag)).1, (s.engine.onTimeout a.tag).2, .ok .done) := by
    rw [← same]
    exact if_pos running
  rw [served]
  exact ⟨⟨running, sound', ends.config, congrArg _ ends.driver⟩, ends.driver, timers, ends.armed⟩

/-- A driver's event ends the request in flight of its class, if there is one. -/
theorem serve_event {s : Scanner VirtualDriver} (sound : s.Sound) (running : s.running = true)
    (time : Nat) (now : UInt64) {event : DriverEvent}
    (own : event.interface = s.engine.driver.interface) :
    let (s', effects, _) := s.serve time now (.driverEvent event)
    s.Goes s' ∧ s'.engine.driver = s.engine.driver ∧ armedBy effects = [] ∧
      (s.timers.get event.scanClass = none ∧ s'.timers = s.timers ∧ effects = [] ∨
        ∃ a handler ending, s.timers.get event.scanClass = some a ∧
          s'.timers = s.timers.disarm event.scanClass ∧
          .finish a.tag handler ending ∈ effects) := by
  simp only [serve, running, if_true]
  rcases Engine.onDriverEvent_cases own now with ⟨idle, nothing⟩ | ⟨r, flight, ends⟩
  · rw [nothing]
    exact ⟨⟨running, sound, rfl, rfl⟩, rfl, rfl, Or.inl ⟨(sound.idle_iff _).2 idle, rfl, rfl⟩⟩
  · -- The timer of the request shows which request ends.
    obtain ⟨sound', timers⟩ := sound.after_ends ends time
    obtain ⟨ending, told⟩ := ends.told
    have timed := sound.timed event.scanClass
    rw [flight] at timed
    obtain ⟨a, armed, tag⟩ := Option.map_eq_some_iff.1 timed
    refine ⟨⟨running, sound', ends.config, congrArg _ ends.driver⟩, ends.driver, ends.armed,
      Or.inr ⟨a, r.handler, ending, armed, timers, ?_⟩⟩
    rw [tag]
    exact told

/-- What a driver or a timer tells a scanner arms no timer, and the driver stays as it is. -/
theorem serve_signal (s : Scanner VirtualDriver) (time : Nat) (now : UInt64) (command : Command)
    (signal : command.isCallers = false) :
    (s.serve time now command).1.engine.driver = s.engine.driver ∧
      (s.serve time now command).1.timers.armed.length ≤ s.timers.armed.length := by
  have ended (c : ScanClass) : (s.timers.disarm c).armed.length ≤ s.timers.armed.length := by
    cases armed : s.timers.get c with
    | none => exact Nat.le_of_eq (by rw [Timers.disarm_eq_self _ armed])
    | some a =>
      rw [← Timers.length_armed_disarm armed]
      exact Nat.le_succ _
  -- Either the signal ends a request, whose timer is disarmed, or nothing changes.
  by_cases running : s.running = true
  · cases command with
    | driverEvent event =>
      simp only [serve, if_pos running, after]
      by_cases own : event.interface = s.engine.driver.interface
      · rcases Engine.onDriverEvent_cases own now with ⟨-, nothing⟩ | ⟨r, -, ends⟩
        · rw [nothing]
          exact ⟨rfl, Nat.le_refl _⟩
        · exact ⟨ends.driver, ends.timers time s.timers ▸ ended _⟩
      · have foreign : s.engine.onDriverEvent now event = (s.engine, []) := if_neg own
        rw [foreign]
        exact ⟨rfl, Nat.le_refl _⟩
    | timerFired tag =>
      simp only [serve, if_pos running, after, Engine.onTimeout]
      split
      · cases flight : s.engine.inFlight? tag.scanClass with
        | none =>
          rw [Engine.fail_of_idle flight]
          exact ⟨rfl, Nat.le_refl _⟩
        | some r =>
          have ends := Engine.fail_ends flight .timedOut
          exact ⟨ends.driver, ends.timers time s.timers ▸ ended _⟩
      · exact ⟨rfl, Nat.le_refl _⟩
    | start c settings handler => cases signal
    | latest c => cases signal
    | scanning c => cases signal
    | shutdown => cases signal
  · simp [serve, running]

end Scanner

end WifiScan

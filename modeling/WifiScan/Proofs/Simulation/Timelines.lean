import WifiScan.Proofs.Simulation.RestingTimelines
import WifiScan.Proofs.Simulation.Stations

/-!
# Stations are timelines

To hand commands to the scanner of a station, or to report a scan to it, is to post and serve them.
A timer that falls due is a task that wakes and sends its tag, which is served. Otherwise time
passes. So whatever a station does are moves of a timeline, which rests between them
(`Timeline.Rests`).

## Main results

`history_timeline`: after any history of a station, moves lead a timeline to the same time and
scanner, with nothing left to do. `history_lifetimes`: so the requests in flight at a station are
those whose timers are armed, and no request outlasts its timer.
-/
namespace WifiScan

variable {config : EngineConfig}

namespace Station

/-! ### Moves of a timeline -/

variable [Wait] {driver : VirtualDriver} {depth : UInt64} {s s' : Station}

/-- Moves lead a new timeline to the time and the scanner of a station. -/
def Tracked (config : EngineConfig) (driver : VirtualDriver) (depth : UInt64) (s : Station) :
    Prop :=
  ∃ moves, ((Timeline.initial config driver depth).play (Wait.finish 0) moves).Rests s.time
    s.scanner

namespace Tracked

theorem go (tracked : s.Tracked config driver depth)
    (more : ∀ tl : Timeline VirtualDriver, tl.Sound (Wait.finish 0) config → tl.Mirrored →
      tl.Rests s.time s.scanner →
        ∃ moves, (tl.play (Wait.finish 0) moves).Rests s'.time s'.scanner) :
    s'.Tracked config driver depth := by
  obtain ⟨moves, rests⟩ := tracked
  have sound : ((Timeline.initial config driver depth).play (Wait.finish 0) moves).Sound
      (Wait.finish 0) config := (Timeline.sound_initial config driver depth).play moves
  have mirrored := Timeline.mirrored_play config driver depth moves
  obtain ⟨others, rests'⟩ := more _ sound mirrored rests
  exact ⟨moves ++ others, by rwa [Timeline.play_append]⟩

/-- A timer is kept for the class of its tag. -/
theorem scanClass (tracked : s.Tracked config driver depth) {c : ScanClass} {a : ArmedTimer}
    (armed : s.scanner.timers.get c = some a) : a.tag.scanClass = c := by
  obtain ⟨moves, rests⟩ := tracked
  have sound : ((Timeline.initial config driver depth).play (Wait.finish 0) moves).Sound
      (Wait.finish 0) config := (Timeline.sound_initial config driver depth).play moves
  have mirrored := Timeline.mirrored_play config driver depth moves
  exact sound.tasks.held c _ ((rests.timer_iff sound mirrored).1 armed)

theorem setDriver (tracked : s.Tracked config driver depth) (d : VirtualDriver) :
    (s.setDriver d).Tracked config driver depth :=
  tracked.go fun _ _ _ rests => ⟨_, rests.script d⟩

theorem feedRadio (tracked : s.Tracked config driver depth) :
    s.feedRadio.Tracked config driver depth := by
  unfold Station.feedRadio
  split
  · exact tracked
  · split
    · exact tracked
    · exact tracked.setDriver _

theorem serve (tracked : s.Tracked config driver depth) (now : UInt64) {command : Command}
    (posted : command.isTimer = false) :
    { s with scanner := (s.scanner.serve s.time now command).1 }.Tracked config driver depth :=
  tracked.go fun _ sound _ rests => rests.serve sound now posted

theorem serveAll (tracked : s.Tracked config driver depth) (now : UInt64) (commands : List Command)
    (posted : ∀ command ∈ commands, command.isTimer = false) :
    { s with scanner := (s.scanner.serveAll s.time now commands).1 }.Tracked config driver
      depth := by
  induction commands generalizing s with
  | nil => exact tracked
  | cons command commands ih =>
    exact ih (tracked.serve now (posted command List.mem_cons_self)) fun other member =>
      posted other (List.mem_cons_of_mem _ member)

theorem call (tracked : s.Tracked config driver depth) (now : UInt64) {commands : List Command}
    (callers : ∀ command ∈ commands, command.isCallers = true) :
    { s with scanner := (s.scanner.call s.time now commands).1 }.Tracked config driver depth := by
  unfold Scanner.call
  split
  · apply tracked.serveAll now commands
    intro command member
    have caller := callers command member
    cases command <;> first | rfl | cases caller
  · exact tracked

theorem stop (tracked : s.Tracked config driver depth) :
    { s with scanner := s.scanner.stop.1 }.Tracked config driver depth :=
  tracked.go fun _ sound _ rests => rests.stop sound

/-- Time passes until the first timer is due, or something else before. -/
theorem pass (tracked : s.Tracked config driver depth) {limit : Nat}
    (first : ∀ c a, s.scanner.timers.get c = some a → limit ≤ a.deadline) :
    { s with time := max s.time limit }.Tracked config driver depth := by
  rcases Nat.le_total s.time limit with before | before
  · rw [Nat.max_eq_right before]
    exact tracked.go fun _ sound mirrored rests => rests.pass sound mirrored before first
  · rw [Nat.max_eq_left before]
    exact tracked

end Tracked

/-- Moves lead a new timeline to a station whose radio has nothing left to read. -/
structure Steady (config : EngineConfig) (driver : VirtualDriver) (depth : UInt64)
    (s : Station) : Prop where
  tracked : s.Tracked config driver depth
  drained : s.Drained

theorem Tracked.steady (tracked : s.Tracked config driver depth) :
    s.feedRadio.Steady config driver depth := by
  refine ⟨tracked.feedRadio, ?_⟩
  unfold Station.feedRadio
  split
  next none =>
    intro r radio
    cases none.symm.trans radio
  next r radio =>
    split
    next finished =>
      intro r' radio' going
      cases radio.symm.trans radio'
      cases finished.symm.trans going
    next =>
      intro _ _ _
      -- The radio has taken all scans out of its queue.
      change (s.driver.subscriber.map fun _ => []).getD [] = []
      cases s.driver.subscriber <;> rfl

theorem Steady.fire_timer (steady : s.Steady config driver depth) (clock : Nat → UInt64)
    {c : ScanClass} {a : ArmedTimer} (armed : s.scanner.timers.get c = some a)
    (first : ∀ c b, s.scanner.timers.get c = some b → a.deadline ≤ b.deadline) :
    (s.fire clock (.timer a)).1.Steady config driver depth ∧
      (s.fire clock (.timer a)).1.load < s.load := by
  obtain rfl := steady.tracked.scanClass armed
  let now := clock (max s.time a.deadline)
  -- To serve a tag arms no timer, so there is one timer less.
  obtain ⟨same, fewer⟩ :=
    Scanner.serve_signal { s.scanner with timers := s.scanner.timers.disarm a.tag.scanClass }
      (max s.time a.deadline) now (.timerFired a.tag) rfl
  refine ⟨⟨?_, ?_⟩, ?_⟩
  · exact (steady.tracked.pass first).go fun tl sound mirrored rests =>
      rests.fire sound mirrored now armed (Nat.le_max_right ..)
  · intro r radio going
    have read := steady.drained r radio going
    rw [Station.driver, ← same] at read
    exact read
  · refine Nat.add_lt_add_right (Nat.lt_of_le_of_lt fewer ?_) _
    rw [← Timers.length_armed_disarm armed]
    exact Nat.lt_succ_self _

theorem Steady.fire_radio (steady : s.Steady config driver depth) (clock : Nat → UInt64)
    {b : RadioService} (busy : s.serving = some b)
    (first : ∀ c a, s.scanner.timers.get c = some a → b.dueAt ≤ a.deadline) :
    (s.fire clock (.radio b)).1.Steady config driver depth ∧
      (s.fire clock (.radio b)).1.load < s.load := by
  have passed := steady.tracked.pass first
  obtain ⟨r, radio, serving⟩ := Option.bind_eq_some_iff.1 busy
  have load : s.load = s.scanner.timers.armed.length + (r.release.load + 1) := by
    rw [Station.load, radio, Option.elim_some, Radio.load, serving, Radio.load, Radio.release]
    simp [Nat.add_comm]
  cases report : r.report? b with
  | none =>
    -- The radio ends the scan in silence.
    have fired : (s.fire clock (.radio b)).1 =
        Station.feedRadio { s with time := max s.time b.dueAt, radio := some r.release } := by
      simp only [Station.fire, Due.time, radio, report]
    have released : Drained { s with time := max s.time b.dueAt, radio := some r.release } := by
      rintro _ ⟨⟩ going
      exact steady.drained r radio going
    rw [fired, load]
    exact ⟨Tracked.steady passed, Nat.lt_of_le_of_lt (load_feedRadio released) (Nat.lt_succ_self _)⟩
  | some event =>
    by_cases running : s.scanner.running = true
    · -- The report is served.
      let now := clock (max s.time b.dueAt)
      let reported : Station :=
        { s with
          time := max s.time b.dueAt
          scanner := (s.scanner.serve (max s.time b.dueAt) now (.driverEvent event)).1
          radio := some r.release }
      have fired : (s.fire clock (.radio b)).1 = reported.feedRadio := by
        simp only [Station.fire, Due.time, radio, report, running, if_true]
        rfl
      obtain ⟨same, fewer⟩ :=
        s.scanner.serve_signal (max s.time b.dueAt) now (.driverEvent event) rfl
      have tracked : reported.Tracked config driver depth :=
        passed.go fun _ sound _ rests => rests.serve sound now rfl
      have released : reported.Drained := by
        rintro _ ⟨⟩ going
        have read := steady.drained r radio going
        rw [Station.driver, ← same] at read
        exact read
      rw [fired, load]
      refine ⟨tracked.steady, Nat.lt_of_le_of_lt (load_feedRadio released) ?_⟩
      exact Nat.add_lt_add_of_le_of_lt fewer (Nat.lt_succ_self _)
    · -- Nobody is left to report to, and the radio ends.
      have fired : (s.fire clock (.radio b)).1 =
          { s with time := max s.time b.dueAt, radio := some r.stop } := by
        simp only [Station.fire, Due.time, radio, report, running]
        rfl
      rw [fired, load]
      refine ⟨⟨passed, ?_⟩, Nat.lt_add_of_pos_right (Nat.succ_pos _)⟩
      rintro _ ⟨⟩ going
      cases going

/-- What falls due are moves, and leaves less to fall due. -/
theorem Steady.fire (steady : s.Steady config driver depth) (clock : Nat → UInt64) {due : Due}
    (next : s.nextDue? = some due) :
    (s.fire clock due).1.Steady config driver depth ∧ (s.fire clock due).1.load < s.load := by
  have first : ∀ c a, s.scanner.timers.get c = some a → due.time ≤ a.deadline := by
    intro c a armed
    obtain ⟨due', next', le⟩ := nextDue?_of_armed armed
    cases next.symm.trans next'
    exact le
  cases due with
  | timer a =>
    obtain ⟨c, armed⟩ := (nextDue?_timer next).1
    exact steady.fire_timer clock armed first
  | radio b => exact steady.fire_radio clock (nextDue?_radio next).1 first

/-! ### Histories -/

/-- A steady station where nothing is due. -/
structure Settled (config : EngineConfig) (driver : VirtualDriver) (depth : UInt64)
    (s : Station) : Prop extends s.Steady config driver depth where
  later : ∀ due, s.nextDue? = some due → s.time < due.time

theorem Steady.elapse (steady : s.Steady config driver depth) (clock : Nat → UInt64)
    (limit : Nat) :
    (Station.elapse clock s.load limit s).1.Steady config driver depth ∧
      ∀ due, (Station.elapse clock s.load limit s).1.nextDue? = some due → limit < due.time :=
  elapse_induction clock limit (fun s _ => s.Steady config driver depth)
    (fun _ _ _ steady next => steady.fire clock next) s.load s [] (Nat.le_refl _) steady

theorem Steady.settle (steady : s.Steady config driver depth) (clock : Nat → UInt64) :
    (Station.elapse clock s.load s.time s).1.Settled config driver depth := by
  obtain ⟨steady', later⟩ := steady.elapse clock s.time
  exact ⟨steady', fun due next =>
    Nat.lt_of_le_of_lt (elapse_time_le clock s.load (Nat.le_refl _)) (later due next)⟩

theorem settled_initial (config : EngineConfig) (driver : VirtualDriver)
    (radio : Option RadioConfig) {depth : UInt64} (room : 0 < depth.toNat) :
    (initial config driver radio).Settled config (initial config driver radio).driver depth where
  tracked := ⟨[], Timeline.rests_initial config _ room⟩
  drained r present going := by
    cases radio with
    | none => cases present
    | some radioConfig => rfl
  later due next := by cases radio <;> cases next

theorem Settled.act (settled : s.Settled config driver depth) (clock : Nat → UInt64)
    (deed : Deed) : (s.act clock deed).1.Settled config driver depth := by
  cases deed with
  | call commands callers =>
    exact ((settled.tracked.call (clock s.time) callers).steady).settle clock
  | change change =>
    refine ⟨⟨settled.tracked.setDriver _, fun r radio going => ?_⟩, settled.later⟩
    have read := settled.drained r radio going
    cases change <;> exact read
  | sleep ms =>
    obtain ⟨steady, later⟩ := settled.toSteady.elapse clock (Wait.finish s.time ms)
    have before : (Station.elapse clock s.load (Wait.finish s.time ms) s).1.time ≤
        Wait.finish s.time ms := elapse_time_le clock s.load (Nat.le_add_right ..)
    have passed := steady.tracked.pass fun c a armed => by
      obtain ⟨due, next, le⟩ := nextDue?_of_armed armed
      exact Nat.le_of_lt (Nat.lt_of_lt_of_le (later due next) le)
    rw [Nat.max_eq_right before] at passed
    exact ⟨⟨passed, steady.drained⟩, later⟩
  | detach =>
    have released : Settled config driver depth { s with attached := false } :=
      ⟨⟨settled.tracked, settled.drained⟩, settled.later⟩
    simp only [Station.act]
    split
    · exact released
    · exact released.tracked.stop.steady.settle clock

theorem Settled.history (settled : s.Settled config driver depth) (clock : Nat → UInt64)
    (deeds : List Deed) : (s.history clock deeds).1.Settled config driver depth := by
  induction deeds generalizing s with
  | nil => exact settled
  | cons deed deeds ih => exact ih (settled.act clock deed)

/-- After any history of a station, moves lead a timeline to the same time and scanner, with nothing
left to do. -/
theorem history_timeline (clock : Nat → UInt64) (config : EngineConfig) (driver : VirtualDriver)
    (radio : Option RadioConfig) (depth : UInt64) (room : 0 < depth.toNat) (deeds : List Deed) :
    let start := initial config driver radio
    ∃ moves, let tl := (Timeline.initial config start.driver depth).play (Wait.finish 0) moves
      tl.time = (start.history clock deeds).1.time ∧
        tl.scanner = (start.history clock deeds).1.scanner ∧ tl.isQuiescent = true := by
  have settled := (settled_initial config driver radio room).history clock deeds
  obtain ⟨moves, rests⟩ := settled.tracked
  refine ⟨moves, rests.time, rests.scanner, ?_⟩
  refine rests.isQuiescent ((Timeline.sound_initial config _ depth).play moves)
    (Timeline.mirrored_play config _ depth moves) fun c a armed => ?_
  obtain ⟨due, next, le⟩ := nextDue?_of_armed armed
  exact Nat.lt_of_lt_of_le (settled.later due next) le

/-- At a station whose scanner runs, a request in flight has a timer that fires no later than after
the timeout, and a class without a request has none. -/
theorem history_lifetimes (clock : Nat → UInt64) (config : EngineConfig) (driver : VirtualDriver)
    (radio : Option RadioConfig) (deeds : List Deed) :
    let s := ((initial config driver radio).history clock deeds).1
    s.scanner.running = true → ∀ c,
      (∀ r, s.scanner.engine.inFlight? c = some r → ∃ deadline,
        s.scanner.timers.get c = some ⟨r.tag, deadline⟩ ∧ s.time < deadline ∧
          deadline ≤ s.time + Wait.finish 0 config.scanTimeoutMs) ∧
      (s.scanner.engine.inFlight? c = none → s.scanner.timers.get c = none) := by
  intro s
  -- The scanner of the station is that of a timeline at rest, so its timers are the tasks held.
  obtain ⟨moves, time, scanner, quiet⟩ :=
    history_timeline clock config driver radio 1 Nat.one_pos deeds
  have sound : Timeline.Sound (Wait.finish 0) config _ :=
    (Timeline.sound_initial config (initial config driver radio).driver 1).play moves
  have mirrored := Timeline.mirrored_play config (initial config driver radio).driver 1 moves
  generalize (Timeline.initial config _ 1).play (Wait.finish 0) moves = tl at *
  change tl.scanner = s.scanner at scanner
  change tl.time = s.time at time
  intro running c
  rw [← scanner] at running
  rw [← scanner, ← time, ← mirrored, TimerTasks.table_get]
  refine ⟨fun r flight => ?_, fun idle => ?_⟩
  · obtain ⟨start, task, timed⟩ := (sound.clocked running c).timed r flight
    obtain ⟨asleep, early⟩ := sound.asleep_of_quiescent running quiet timed
    refine ⟨task.deadline, ?_, early, ?_⟩
    · rw [timed.held, Option.bind_some, TimerTask.timer?, if_pos asleep, timed.tag]
    · rw [timed.deadline, sound.configured]
      exact Nat.add_le_add_right timed.started _
  · rw [(sound.clocked running c).idle idle]
    rfl

end Station

end WifiScan

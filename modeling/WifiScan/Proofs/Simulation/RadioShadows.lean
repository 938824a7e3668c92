import WifiScan.Proofs.Simulation.RadioLogs
import WifiScan.Proofs.Simulation.RadioReach

/-!
# The radio of a station is a radio

A radio task that is given at the same moments what the radio of a station is given is that radio
(`RadioTask.Shadows`). Each time the radio of a station learns of something (`Station.feedRadio`),
the task makes the moves `take`, `stop`, `drop` and `receive` (`Sound.feed`); when a scan of the
radio falls due, `pass` and `finish` (`Sound.fire_radio`). So moves lead a task wherever time leads
the radio of a station (`Sound.elapse`), and the same is seen of both.
-/
namespace WifiScan

namespace RadioTask

variable {config : RadioConfig} {length : Nat} {t : RadioTask}

/-- What is seen of a radio. -/
def log (t : RadioTask) : RadioLog where
  taken := t.taken
  told := t.ended.filterMap fun e => e.told.map (e.time, ·)
  stopped := t.stopped.toList.map (·.time)

/-- A radio is that of a station. -/
structure Shadows (t : RadioTask) (s : Station) : Prop where
  time : t.time = s.time
  radio : s.radio = some t.radio
  /-- The radio knows of all scans that the driver took. -/
  read : s.driver.subscriber = some []
  running : s.scanner.running = t.stopped.isNone
  /-- The driver goes when the scanner stops. -/
  gone : t.gone = t.stopped.map (·.time)
  /-- A radio that is free waits for more scans. -/
  fed : t.radio.done = false → t.radio.serving = none → t.radio.waiting = [] ∧ t.gone = none

namespace Shadows

variable {s : Station}

theorem serving (shadows : t.Shadows s) : s.serving = t.radio.serving := by
  rw [Station.serving, shadows.radio]
  rfl

theorem isQuiescent (shadows : t.Shadows s)
    (ahead : ∀ b, t.radio.serving = some b → t.time < b.dueAt) : t.isQuiescent = true := by
  rw [RadioTask.isQuiescent]
  cases on : t.radio.done with
  | true => exact Bool.true_or _
  | false =>
    cases busy : t.radio.serving with
    | some b => exact decide_eq_true (ahead b busy)
    | none =>
      obtain ⟨empty, here⟩ := shadows.fed on busy
      rw [empty, here]
      rfl

end Shadows

theorem shadows_initial (engine : EngineConfig) (driver : VirtualDriver) (config : RadioConfig) :
    (initial config).Shadows (.initial engine driver (some config)) :=
  ⟨rfl, rfl, rfl, rfl, rfl, fun _ _ => ⟨rfl, rfl⟩⟩

theorem log_record (t : RadioTask) (b : RadioService) (told : Option DriverEvent) :
    (t.record b told).log = t.log ++ { told := (told.map (t.time, ·)).toList } := by
  refine RadioLog.ext (List.append_nil _).symm ?_ (List.append_nil _).symm
  change (t.ended ++ [_]).filterMap _ = _
  rw [List.filterMap_append]
  cases told <;> rfl

variable [Wait]

/-- Moves lead a radio to that of a station, and something more is seen of it. -/
def Leads (t : RadioTask) (s : Station) (log : RadioLog) : Prop :=
  ∃ moves, (t.play moves).Shadows s ∧ (t.play moves).log = t.log ++ log

theorem Shadows.leads {s : Station} (shadows : t.Shadows s) : t.Leads s {} :=
  ⟨[], shadows, t.log.append_nothing.symm⟩

theorem Leads.after (moves : List RadioMove) {s : Station} {log more : RadioLog}
    (seen : (t.play moves).log = t.log ++ log) (leads : (t.play moves).Leads s more) :
    t.Leads s (log ++ more) := by
  obtain ⟨others, shadows, seen'⟩ := leads
  refine ⟨moves ++ others, ?_⟩
  rw [play_append, ← RadioLog.append_assoc, ← seen]
  exact ⟨shadows, seen'⟩

/-! ### The radio learns what was done -/

/-- The driver takes some scans. -/
theorem play_takes (here : t.gone = none) (on : t.radio.done = false) (queue : List IssuedScan) :
    t.play (queue.map .take) =
      { t with
        radio := t.radio.enqueue queue
        taken := t.taken ++ queue.map (⟨t.time, ·⟩) } := by
  induction queue generalizing t with
  | nil => simp [play, Radio.enqueue]
  | cons scan queue ih =>
    rw [List.map_cons, play, List.foldl_cons, act_take on here]
    refine (ih (t := t.issue scan) here on).trans ?_
    simp [issue, Radio.enqueue]

/-- A radio that learns whether the driver is gone goes on with its scan, starts on the next, or
stops. -/
theorem receive_eq (on : t.radio.done = false) :
    ∃ doneAt, t.act .receive =
      { t with
        radio :=
          let r := t.radio.begin? t.time
          if r.serving.isNone && t.gone.isSome then r.stop else r
        doneAt } := by
  cases busy : t.radio.serving with
  | some b =>
    have same : t.radio.begin? t.time = t.radio := by rw [Radio.begin?, busy]
    exact ⟨t.doneAt, by simp [receive_busy busy, busy, same]⟩
  | none =>
    cases waits : t.radio.waiting with
    | nil =>
      have same : t.radio.begin? t.time = t.radio := by rw [Radio.begin?, busy, waits]
      by_cases left : t.gone.isSome = true
      · obtain ⟨time, gone⟩ := Option.isSome_iff_exists.1 left
        exact ⟨some t.time, by simp [receive_gone on busy waits gone, left, busy, same, halt]⟩
      · have here := Option.not_isSome_iff_eq_none.1 left
        exact ⟨t.doneAt, by simp [receive_nothing on busy waits here, left, same]⟩
    | cons scan rest =>
      exact ⟨t.doneAt, by simp [receive_next on busy waits, busy, waits, Radio.begin?]⟩

/-- Then it has nothing to start on, and the driver is there. -/
theorem fed_receive (on : (t.act .receive).radio.done = false)
    (idle : (t.act .receive).radio.serving = none) :
    (t.act .receive).radio.waiting = [] ∧ (t.act .receive).gone = none := by
  cases before : t.radio.done with
  | true =>
    rw [receive_done before] at on
    cases before.symm.trans on
  | false =>
    cases busy : t.radio.serving with
    | some b =>
      rw [receive_busy busy] at idle
      cases busy.symm.trans idle
    | none =>
      cases waits : t.radio.waiting with
      | nil =>
        cases gone : t.gone with
        | none =>
          rw [receive_nothing before busy waits gone]
          exact ⟨waits, gone⟩
        | some time =>
          rw [receive_gone before busy waits gone] at on
          cases on
      | cons scan rest =>
        rw [receive_next before busy waits] at idle
        simp only [Radio.begin?, busy, waits] at idle
        cases idle

/-- Whether the scanner runs decides how a free radio goes on. -/
theorem feedRadio_eq {s : Station} {r : Radio} (radio : s.radio = some r) (on : r.done = false)
    {queue : List IssuedScan} (subscriber : s.driver.subscriber = some queue) :
    s.feedRadio =
      { s.setDriver { s.driver with subscriber := some [] } with
        radio := some
          (let r := (r.enqueue queue).begin? s.time
           if r.serving.isNone && !s.scanner.running then r.stop else r) } := by
  have drain : s.driver.drain = (queue, { s.driver with subscriber := some [] }) := by
    simp only [VirtualDriver.drain, subscriber, Option.getD_some, Option.map_some]
  simp only [Station.feedRadio, radio, on, Bool.false_eq_true, if_false, drain]
  rfl

/-- The scanner stops, unless it runs or has stopped before, and the driver goes. -/
def close (t : RadioTask) (running : Bool) : List RadioMove :=
  if t.stopped.isNone && !running then [.stop, .drop] else []

theorem play_close {running : Bool} (gone : t.gone = t.stopped.map (·.time))
    (before : t.stopped.isNone = false → running = false) :
    ∃ stopped, t.play (t.close running) = { t with stopped, gone := stopped.map (·.time) } ∧
      running = stopped.isNone ∧ stopped.toList.map (·.time) =
        t.stopped.toList.map (·.time) ++
          (if t.stopped.isNone && !running then [t.time] else []) := by
  cases stopped : t.stopped with
  | some stop =>
    have same : t.play (t.close running) = t := by
      rw [close, stopped]
      rfl
    have halted := before (by rw [stopped]; rfl)
    rw [stopped] at gone
    refine ⟨some stop, ?_, halted, (List.append_nil _).symm⟩
    rw [same, ← gone, ← stopped]
  | none =>
    rw [stopped] at gone
    cases running with
    | true =>
      have same : t.play (t.close true) = t := by
        rw [close, stopped]
        rfl
      refine ⟨none, ?_, rfl, rfl⟩
      rw [same, ← gone, ← stopped]
    | false =>
      -- The scanner stops at this moment, and the driver goes with it.
      have halted : t.play (t.close false) = (t.act .stop).act .drop := by
        rw [close, stopped]
        rfl
      refine ⟨some ⟨t.time, t.ended.length⟩, ?_, rfl, rfl⟩
      rw [halted, act, act, stopped, gone]
      rfl

/-- A radio that has stopped is that of a scanner that has stopped. -/
theorem Sound.stopped_of_done (sound : t.Sound config length)
    (gone : t.gone = t.stopped.map (·.time)) (done : t.radio.done = true) :
    t.stopped.isNone = false := by
  by_contra runs
  have runs : t.stopped = none := by simpa using runs
  have here : t.gone = none := by rw [gone, runs, Option.map_none]
  cases done.symm.trans (sound.done_eq_false runs here)

/-- The driver takes what it has taken, the scanner may stop, and the radio learns of it. -/
theorem Sound.feed (sound : t.Sound config length) {s : Station} (time : t.time = s.time)
    (radio : s.radio = some t.radio) {queue : List IssuedScan}
    (subscriber : s.driver.subscriber = some queue) (gone : t.gone = t.stopped.map (·.time))
    (before : t.stopped.isNone = false → s.scanner.running = false ∧ queue = []) :
    t.Leads s.feedRadio
      { taken := queue.map (⟨s.time, ·⟩)
        stopped := if t.stopped.isNone && !s.scanner.running then [s.time] else [] } := by
  cases on : t.radio.done with
  | true =>
    -- The radio has stopped before, and so has the scanner.
    have done : s.feedRadio = s := by simp only [Station.feedRadio, radio, on, if_true]
    have late := sound.stopped_of_done gone on
    obtain ⟨halted, rfl⟩ := before late
    have shadows : t.Shadows s :=
      ⟨time, radio, subscriber, halted.trans late.symm, gone, fun going => by
        cases on.symm.trans going⟩
    rw [done, late]
    exact shadows.leads
  | false =>
    -- First the driver takes its scans, then the scanner stops, and then the radio learns of both.
    let given : RadioTask :=
      { t with
        radio := t.radio.enqueue queue
        taken := t.taken ++ queue.map (⟨t.time, ·⟩) }
    have takes : t.play (queue.map .take) = given := by
      cases stopped : t.stopped with
      | none => exact play_takes (by rw [gone, stopped, Option.map_none]) on queue
      | some stop =>
        obtain ⟨-, rfl⟩ := before (by rw [stopped]; rfl)
        simp only [given, Radio.enqueue, List.append_nil, List.map_nil]
        rfl
    obtain ⟨stopped, closed, running, stops⟩ :=
      play_close (t := given) gone fun stopped => (before stopped).1
    have left : (stopped.map (·.time)).isSome = !s.scanner.running := by
      rw [running]
      cases stopped <;> rfl
    let told : RadioTask := { given with stopped, gone := stopped.map (·.time) }
    obtain ⟨doneAt, received⟩ := receive_eq (t := told) on
    have reached : t.play (queue.map .take ++ given.close s.scanner.running ++ [.receive]) =
        told.act .receive := by
      rw [play_append, play_append, takes, closed]
      rfl
    refine ⟨queue.map .take ++ given.close s.scanner.running ++ [.receive], ?_, ?_⟩
    · rw [reached]
      refine ⟨?_, ?_, ?_, ?_, ?_, fed_receive⟩
      · rw [received, feedRadio_eq radio on subscriber]
        exact time
      · rw [received, feedRadio_eq radio on subscriber]
        simp only [told, given, left, time]
      · rw [feedRadio_eq radio on subscriber]
        rfl
      · rw [received, feedRadio_eq radio on subscriber]
        exact running
      · rw [received]
    · rw [reached, received, ← time]
      exact RadioLog.ext rfl (List.append_nil _).symm stops

/-- A radio that was given nothing learns that the scanner runs or has stopped before. -/
theorem Sound.feed_nothing (sound : t.Sound config length) {s : Station} (time : t.time = s.time)
    (radio : s.radio = some t.radio) (read : s.driver.subscriber = some [])
    (running : s.scanner.running = t.stopped.isNone) (gone : t.gone = t.stopped.map (·.time)) :
    t.Leads s.feedRadio {} := by
  have fed := sound.feed time radio read gone fun stopped => ⟨running.trans stopped, rfl⟩
  rw [running, Bool.and_not_self] at fed
  exact fed

/-! ### Something falls due -/

namespace Shadows

variable {s : Station}

/-- Time passes while the radio has nothing to do. -/
theorem pass (shadows : t.Shadows s) {limit : Nat}
    (ahead : ∀ b, t.radio.serving = some b → limit < b.dueAt) :
    ∃ moves, t.play moves = { t with time := max t.time limit } := by
  rcases Nat.le_total t.time limit with later | past
  · have quiet := shadows.isQuiescent fun b busy => Nat.lt_of_le_of_lt later (ahead b busy)
    refine ⟨[.pass limit], ?_⟩
    rw [Nat.max_eq_right later]
    exact pass_eq quiet later fun b busy => Nat.le_of_lt (ahead b busy)
  · refine ⟨[], ?_⟩
    rw [Nat.max_eq_left past]
    rfl

/-- A timer falls due, which is nothing to the radio. -/
theorem fire_timer (shadows : t.Shadows s) (clock : Nat → UInt64) (a : ArmedTimer)
    (ahead : ∀ b, t.radio.serving = some b → a.deadline < b.dueAt) :
    t.Leads (s.fire clock (.timer a)).1 {} := by
  obtain ⟨moves, passed⟩ := shadows.pass ahead
  have running := s.fire_running clock (.timer a)
  have same := (Scanner.serve_signal
    { s.scanner with timers := s.scanner.timers.disarm a.tag.scanClass }
      (max s.time a.deadline) (clock (max s.time a.deadline)) (.timerFired a.tag) rfl).1
  refine ⟨moves, ?_, ?_⟩
  · rw [passed]
    refine ⟨?_, shadows.radio, ?_, running.trans shadows.running, shadows.gone, shadows.fed⟩
    · exact congrArg (max · a.deadline) shadows.time
    · exact (congrArg VirtualDriver.subscriber same).trans shadows.read
  · rw [passed]
    exact t.log.append_nothing.symm

end Shadows

/-- The radio of a station ends a scan and goes on. -/
theorem Sound.leads_of_record (sound : t.Sound config length) {s : Station} (shadows : t.Shadows s)
    {b : RadioService} (busy : t.radio.serving = some b) {told : Option DriverEvent}
    (ended : { t with time := b.dueAt }.act .finish = { t with time := b.dueAt }.record b told)
    {scanner : Scanner VirtualDriver} (same : scanner.engine.driver = s.scanner.engine.driver)
    (running : scanner.running = s.scanner.running) :
    t.Leads (Station.feedRadio { s with time := b.dueAt, scanner, radio := some t.radio.release })
      { told := (told.map (b.dueAt, ·)).toList } := by
  have played := (sound.play_finish busy).trans ended
  have sound' := sound.play [.pass b.dueAt, .finish]
  rw [played] at sound'
  have fed := sound'.feed_nothing
    (s := { s with time := b.dueAt, scanner, radio := some t.radio.release }) rfl rfl
    ((congrArg VirtualDriver.subscriber same).trans shadows.read)
    (running.trans shadows.running) shadows.gone
  rw [← played] at fed
  have seen : (t.play [.pass b.dueAt, .finish]).log =
      t.log ++ { told := (told.map (b.dueAt, ·)).toList } := by
    rw [played]
    exact log_record ..
  have leads := fed.after [.pass b.dueAt, .finish] seen
  rwa [RadioLog.append_nothing] at leads

/-- The radio of a station ends a scan. -/
theorem Sound.fire_radio (sound : t.Sound config length) {s : Station} (shadows : t.Shadows s)
    (clock : Nat → UInt64) {b : RadioService} (busy : t.radio.serving = some b) :
    t.Leads (s.fire clock (.radio b)).1
      { told := ((s.report? (.radio b)).map (max s.time b.dueAt, ·)).toList } := by
  obtain ⟨_, -, -, ahead⟩ := sound.busy b busy
  have time : max s.time b.dueAt = b.dueAt := Nat.max_eq_right (shadows.time ▸ ahead)
  have radio := shadows.radio
  let late : RadioTask := { t with time := b.dueAt }
  have due : b.dueAt ≤ late.time := Nat.le_refl _
  rw [time]
  cases told : t.radio.report? b with
  | none =>
    have silent : s.report? (.radio b) = none := by simp [Station.report?, radio, told]
    have fired : (s.fire clock (.radio b)).1 =
        Station.feedRadio { s with time := b.dueAt, radio := some t.radio.release } := by
      simp only [Station.fire, Station.Due.time, radio, told, time]
    rw [silent, fired]
    exact sound.leads_of_record shadows busy (finish_silent (t := late) busy due told) rfl rfl
  | some event =>
    cases running : s.scanner.running with
    | true =>
      have reported : s.report? (.radio b) = some event := by
        simp [Station.report?, radio, told, running]
      let now := clock b.dueAt
      have fired : (s.fire clock (.radio b)).1 = Station.feedRadio
          { s with
            time := b.dueAt
            scanner := (s.scanner.serve b.dueAt now (.driverEvent event)).1
            radio := some t.radio.release } := by
        simp only [Station.fire, Station.Due.time, radio, told, time, running, if_true]
        rfl
      have ended := finish_reported (t := late) busy due told (shadows.running.symm.trans running)
      rw [reported, fired]
      exact sound.leads_of_record shadows busy ended
        (s.scanner.serve_signal b.dueAt now _ rfl).1 (s.scanner.running_signal b.dueAt now _ rfl)
    | false =>
      -- Nobody is left to report to, and the radio ends.
      have silent : s.report? (.radio b) = none := by
        simp [Station.report?, running]
      have fired : (s.fire clock (.radio b)).1 =
          { s with time := b.dueAt, radio := some t.radio.stop } := by
        simp only [Station.fire, Station.Due.time, radio, told, time, running]
        rfl
      have ended := finish_unheard (t := late) busy due told (shadows.running.symm.trans running)
      rw [silent, fired]
      refine ⟨[.pass b.dueAt, .finish], ?_⟩
      rw [sound.play_finish busy, ended]
      refine ⟨⟨rfl, rfl, shadows.read, shadows.running, shadows.gone, fun going => ?_⟩, ?_⟩
      · cases going
      · exact log_record late b none

/-- What falls due at a station is nothing to the radio, or the end of its scan. -/
theorem Sound.fire (sound : t.Sound config length) {s : Station} (shadows : t.Shadows s)
    (clock : Nat → UInt64) {due : Station.Due} (next : s.nextDue? = some due) :
    t.Leads (s.fire clock due).1
      { told := ((s.report? due).map (max s.time due.time, ·)).toList } := by
  cases due with
  | timer a =>
    exact shadows.fire_timer clock a fun b busy =>
      (Station.nextDue?_timer next).2 b (shadows.serving.trans busy)
  | radio b =>
    exact sound.fire_radio shadows clock
      (shadows.serving.symm.trans (Station.nextDue?_radio next).1)

theorem Sound.elapse (sound : t.Sound config length) {s : Station} (shadows : t.Shadows s)
    (clock : Nat → UInt64) (fuel limit : Nat) :
    t.Leads (Station.elapse clock fuel limit s).1
      { told := Station.reportsUntil clock fuel limit s } := by
  induction fuel generalizing t s with
  | zero => exact shadows.leads
  | succ fuel ih =>
    rw [Station.elapse, Station.reportsUntil]
    cases next : s.nextDue? with
    | none => exact shadows.leads
    | some due =>
      by_cases now : due.time ≤ limit
      · simp only [if_pos now]
        obtain ⟨moves, shadows', seen⟩ := sound.fire shadows clock next
        exact (ih (sound.play moves) shadows').after moves seen
      · simp only [if_neg now]
        exact shadows.leads

end RadioTask

end WifiScan

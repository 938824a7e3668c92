import WifiScan.Proofs.Simulation.History

/-!
# What happens at a station

While a station's scanner runs over a driver whose commands a radio serves, every command that the
driver took waits in one of three places until the radio has ended its scan: it is being served, it
waits at the radio, or the radio has not read it. This module says for each thing that happens how
requests, timers and these scans change, and that what falls due is less each time, so that time
never passes what is due (`elapse_done`).
-/
namespace WifiScan.Station

/-! ### What falls due first -/

def serving (s : Station) : Option RadioService := s.radio.bind (·.serving)

theorem nextDue?_timer {s : Station} {a : ArmedTimer} (h : s.nextDue? = some (.timer a)) :
    (∃ c, s.scanner.timers.get c = some a) ∧ ∀ b, s.serving = some b → a.deadline < b.dueAt := by
  simp only [nextDue?] at h
  cases next : s.scanner.timers.next? with
  | none => cases serving : s.radio.bind (·.serving) <;> simp [next, serving] at h
  | some a' =>
    cases serving : s.radio.bind (·.serving) with
    | none =>
      simp only [next, serving, Option.some.injEq, Due.timer.injEq] at h
      exact ⟨h ▸ (Timers.next?_eq_some next).1, fun b busy => by cases serving.symm.trans busy⟩
    | some b =>
      simp only [next, serving, Option.some.injEq] at h
      split at h
      next earlier =>
        -- The timer fires before the radio is done.
        cases h
        refine ⟨(Timers.next?_eq_some next).1, fun b' busy => ?_⟩
        cases serving.symm.trans busy
        exact earlier
      next => cases h

theorem nextDue?_radio {s : Station} {b : RadioService} (h : s.nextDue? = some (.radio b)) :
    s.serving = some b ∧ ∀ c a, s.scanner.timers.get c = some a → b.dueAt ≤ a.deadline := by
  simp only [nextDue?] at h
  cases serving : s.radio.bind (·.serving) with
  | none => cases next : s.scanner.timers.next? <;> simp [next, serving] at h
  | some b' =>
    cases next : s.scanner.timers.next? with
    | none =>
      simp only [next, serving, Option.some.injEq, Due.radio.injEq] at h
      exact ⟨h ▸ serving, fun c a armed => by
        cases (Timers.next?_eq_none next c).symm.trans armed⟩
    | some a' =>
      simp only [next, serving, Option.some.injEq] at h
      split at h
      next => cases h
      next later =>
        -- The radio is done before the first timer, and so before all, or together with it.
        cases h
        exact ⟨serving, fun c a armed => Nat.le_trans (Nat.le_of_not_lt later)
          ((Timers.next?_eq_some next).2 c a armed)⟩

/-- While the radio is busy, something falls due when it is done at the latest. -/
theorem nextDue?_of_serving {s : Station} {b : RadioService} (busy : s.serving = some b) :
    ∃ due, s.nextDue? = some due ∧ due.time ≤ b.dueAt := by
  have busy : s.radio.bind (·.serving) = some b := busy
  simp only [nextDue?, busy]
  cases s.scanner.timers.next? with
  | none => exact ⟨.radio b, rfl, Nat.le_refl _⟩
  | some a =>
    by_cases earlier : a.deadline < b.dueAt
    · exact ⟨.timer a, congrArg some (if_pos earlier), Nat.le_of_lt earlier⟩
    · exact ⟨.radio b, congrArg some (if_neg earlier), Nat.le_refl _⟩

/-- Something falls due no later than any timer. -/
theorem nextDue?_of_armed {s : Station} {c : ScanClass} {a : ArmedTimer}
    (armed : s.scanner.timers.get c = some a) :
    ∃ due, s.nextDue? = some due ∧ due.time ≤ a.deadline := by
  cases next : s.scanner.timers.next? with
  | none => cases (Timers.next?_eq_none next c).symm.trans armed
  | some first =>
    have earliest := (Timers.next?_eq_some next).2 c a armed
    cases serving : s.radio.bind (·.serving) with
    | none =>
      refine ⟨.timer first, ?_, earliest⟩
      simp only [nextDue?, next, serving]
    | some b =>
      refine ⟨if first.deadline < b.dueAt then .timer first else .radio b, ?_, ?_⟩
      · simp only [nextDue?, next, serving]
      · split
        next => exact earliest
        next later => exact Nat.le_trans (Nat.le_of_not_lt later) earliest

/-! ### Stations with a radio -/

/-- A running scanner whose driver's commands a radio serves; the radio has not read those in the
queue. -/
structure Sound (latencyMs timeoutMs : UInt64) (s : Station) (r : Radio)
    (queue : List IssuedScan) : Prop where
  scanner : s.scanner.Sound
  running : s.scanner.running = true
  timeout : s.scanner.engine.config.scanTimeoutMs = timeoutMs
  subscriber : s.driver.subscriber = some queue
  radio : s.radio = some r
  alive : r.done = false
  latency : r.latencyMs = latencyMs
  interface : r.interface = s.driver.interface

/-- The classes of the scans that the radio has still to end, in their order. -/
def tickets (r : Radio) (queue : List IssuedScan) : List ScanClass :=
  r.serving.toList.map RadioService.scanClass ++ (r.waiting ++ queue).map IssuedScan.scanClass

/-- The radio knows of all commands, and is busy if it has a scan to end. -/
def Fed (r : Radio) (queue : List IssuedScan) : Prop :=
  queue = [] ∧ (r.serving = none → r.waiting = [])

variable {latencyMs timeoutMs : UInt64} {s : Station} {r : Radio} {queue : List IssuedScan}

theorem Sound.serving_eq (sound : Sound latencyMs timeoutMs s r queue) : s.serving = r.serving := by
  rw [serving, sound.radio]
  rfl

/-- Time may pass, and the caller may let go of the scanner. -/
theorem Sound.move (sound : Sound latencyMs timeoutMs s r queue) (time : Nat) (attached : Bool) :
    Sound latencyMs timeoutMs { s with time, attached } r queue :=
  ⟨sound.scanner, sound.running, sound.timeout, sound.subscriber, sound.radio, sound.alive,
    sound.latency, sound.interface⟩

/-- The radio may be done with its scan. -/
theorem Sound.release (sound : Sound latencyMs timeoutMs s r queue) :
    Sound latencyMs timeoutMs { s with radio := some r.release } r.release queue :=
  ⟨sound.scanner, sound.running, sound.timeout, sound.subscriber, rfl, sound.alive, sound.latency,
    sound.interface⟩

theorem Sound.load_eq (sound : Sound latencyMs timeoutMs s r queue) :
    s.load = s.scanner.timers.armed.length + (tickets r []).length := by
  simp [load, sound.radio, Radio.load, tickets]

/-- A scanner that goes on keeps a station sound. -/
theorem Sound.serve (sound : Sound latencyMs timeoutMs s r queue) {time : Nat}
    {scanner : Scanner VirtualDriver} (goes : s.scanner.Goes scanner) {queue' : List IssuedScan}
    (subscriber : scanner.engine.driver.subscriber = some queue') :
    Sound latencyMs timeoutMs { s with time, scanner } r queue' :=
  ⟨goes.sound, goes.running, by rw [goes.config, sound.timeout], subscriber, sound.radio,
    sound.alive, sound.latency, sound.interface.trans goes.interface.symm⟩

theorem tickets_of_busy {b : RadioService} (busy : r.serving = some b) (queue : List IssuedScan) :
    tickets r queue = b.scanClass :: tickets r.release queue := by
  simp [tickets, busy, Radio.release]

variable [Wait]

/-- The radio after it was handed all commands. -/
def fedRadio (s : Station) (r : Radio) (queue : List IssuedScan) : Radio :=
  (r.enqueue queue).begin? s.time

theorem feedRadio_eq (sound : Sound latencyMs timeoutMs s r queue) :
    s.feedRadio =
      { s.setDriver { s.driver with subscriber := some [] } with
        radio := some (fedRadio s r queue) } := by
  have drain : s.driver.drain = (queue, { s.driver with subscriber := some [] }) := by
    simp only [VirtualDriver.drain, sound.subscriber, Option.getD_some, Option.map_some]
  simp only [feedRadio, sound.radio, sound.alive, Bool.false_eq_true, if_false, drain, setDriver,
    sound.running, Bool.not_true, Bool.and_false]
  rfl

/-- How the radio is handed commands: it goes on with its scan, or has nothing to do, or starts on
the first. -/
theorem fedRadio_cases (s : Station) (r : Radio) (queue : List IssuedScan) :
    (∃ b, r.serving = some b ∧ (fedRadio s r queue).serving = some b ∧
        (fedRadio s r queue).waiting = r.waiting ++ queue) ∨
      (r.serving = none ∧ r.waiting ++ queue = [] ∧ (fedRadio s r queue).serving = none ∧
        (fedRadio s r queue).waiting = []) ∨
      ∃ scan rest, r.serving = none ∧ r.waiting ++ queue = scan :: rest ∧
        (fedRadio s r queue).serving = some ⟨scan.scanClass, r.script.headD r.defaultOutcome,
          Wait.finish s.time r.latencyMs⟩ ∧
        (fedRadio s r queue).waiting = rest := by
  cases serving : r.serving with
  | some b =>
    exact Or.inl ⟨b, rfl, by simp [fedRadio, Radio.begin?, Radio.enqueue, serving],
      by simp [fedRadio, Radio.begin?, Radio.enqueue, serving]⟩
  | none =>
    cases waiting : r.waiting ++ queue with
    | nil =>
      exact Or.inr (Or.inl ⟨rfl, rfl,
        by simp [fedRadio, Radio.begin?, Radio.enqueue, serving, waiting],
        by simp [fedRadio, Radio.begin?, Radio.enqueue, serving, waiting]⟩)
    | cons scan rest =>
      exact Or.inr (Or.inr ⟨scan, rest, rfl, rfl,
        by simp [fedRadio, Radio.begin?, Radio.enqueue, serving, waiting],
        by simp [fedRadio, Radio.begin?, Radio.enqueue, serving, waiting]⟩)

theorem fed_fedRadio (s : Station) (r : Radio) (queue : List IssuedScan) :
    Fed (fedRadio s r queue) [] := by
  refine ⟨rfl, ?_⟩
  intro idle
  rcases fedRadio_cases s r queue with ⟨b, -, busy, -⟩ | ⟨-, -, -, nothing⟩ |
    ⟨scan, rest, -, -, busy, -⟩
  · cases busy.symm.trans idle
  · exact nothing
  · cases busy.symm.trans idle

theorem tickets_fedRadio (s : Station) (r : Radio) (queue : List IssuedScan) :
    tickets (fedRadio s r queue) [] = tickets r queue := by
  rcases fedRadio_cases s r queue with ⟨b, before, busy, waiting⟩ | ⟨before, none, idle, waiting⟩ |
    ⟨scan, rest, before, some, busy, waiting⟩
  · simp only [tickets, before, busy, waiting, List.append_nil]
  · simp only [tickets, before, none, idle, waiting, List.append_nil]
  · simp [tickets, before, some, busy, waiting]

theorem Sound.feedRadio (sound : Sound latencyMs timeoutMs s r queue) :
    Sound latencyMs timeoutMs s.feedRadio (fedRadio s r queue) [] := by
  rw [feedRadio_eq sound]
  have same : (fedRadio s r queue).done = r.done ∧ (fedRadio s r queue).latencyMs = r.latencyMs ∧
      (fedRadio s r queue).interface = r.interface := by
    unfold fedRadio Radio.begin? Radio.enqueue
    split <;> exact ⟨rfl, rfl, rfl⟩
  exact ⟨⟨sound.scanner.tagged, sound.scanner.timed⟩, sound.running, sound.timeout, rfl, rfl,
    same.1.trans sound.alive, same.2.1.trans sound.latency, same.2.2.trans sound.interface⟩

/-- The radio, unless it has ended, has read what the driver took. -/
def Drained (s : Station) : Prop :=
  ∀ r, s.radio = some r → r.done = false → s.driver.subscriber.getD [] = []

theorem load_begin (r : Radio) (now : Nat) : (r.begin? now).load = r.load := by
  cases serving : r.serving <;> cases waiting : r.waiting <;>
    simp [Radio.begin?, Radio.load, serving, waiting, Nat.add_comm]

/-- A radio that has read everything is not given more to do. -/
theorem load_feedRadio {s : Station} (drained : s.Drained) : s.feedRadio.load ≤ s.load := by
  unfold feedRadio
  split
  · exact Nat.le_refl _
  next r radio =>
    by_cases finished : r.done = true
    · exact Nat.le_of_eq (by rw [if_pos finished])
    · have queue : s.driver.drain.1 = [] := drained r radio (Bool.eq_false_iff.2 finished)
      have same : ((r.enqueue s.driver.drain.1).begin? s.time).load = r.load := by
        rw [load_begin, Radio.enqueue, queue, List.append_nil]
      rw [if_neg finished]
      simp only [load, setDriver, radio, Option.elim_some]
      refine Nat.add_le_add_left ?_ _
      split
      · exact Nat.zero_le _
      · exact Nat.le_of_eq same

/-! ### What falls due happens -/

section Fire

variable (clock : Nat → UInt64)

/-- A timer that falls due is gone, and so is its request. -/
theorem Sound.fire_timer (sound : Sound latencyMs timeoutMs s r queue) {c : ScanClass}
    {a : ArmedTimer} (armed : s.scanner.timers.get c = some a) :
    Sound latencyMs timeoutMs (s.fire clock (.timer a)).1 r queue ∧
      (s.fire clock (.timer a)).1.time = max s.time a.deadline ∧
      (s.fire clock (.timer a)).1.scanner.timers = s.scanner.timers.disarm c ∧
      (s.fire clock (.timer a)).1.driver = s.driver ∧
      armedBy (s.fire clock (.timer a)).2 = [] := by
  obtain ⟨goes, driver, timers, nothing⟩ := Scanner.serve_timer sound.scanner sound.running
    (max s.time a.deadline) (clock (max s.time a.deadline)) armed
  exact ⟨sound.serve goes ((congrArg _ driver).trans sound.subscriber), rfl, timers, driver,
    nothing⟩

/-- What the radio reports is served, and then the radio goes on with the next scan. -/
theorem Sound.fire_report (sound : Sound latencyMs timeoutMs s r queue) {b : RadioService}
    {event : DriverEvent} (report : r.report? b = some event) :
    s.fire clock (.radio b) =
      let out := s.scanner.serve (max s.time b.dueAt) (clock (max s.time b.dueAt))
        (.driverEvent event)
      (Station.feedRadio { s with
        time := max s.time b.dueAt, scanner := out.1, radio := some r.release }, out.2.1) := by
  simp only [fire, Due.time, sound.radio, report, sound.running, if_true]

/-- A scan that the radio ends is reported or not; a report ends the request in flight of the class.
Then the radio goes on with the next scan. -/
theorem Sound.fire_radio (sound : Sound latencyMs timeoutMs s r []) (b : RadioService) :
    ∃ s' : Station, (s.fire clock (.radio b)).1 = s'.feedRadio ∧
      Sound latencyMs timeoutMs s' r.release [] ∧ s'.time = max s.time b.dueAt ∧
      s'.driver = s.driver ∧
      ((b.outcome = .silent ∨ s.scanner.timers.get b.scanClass = none) ∧
          s'.scanner.timers = s.scanner.timers ∧ (s.fire clock (.radio b)).2 = [] ∨
        ∃ a handler ending, s.scanner.timers.get b.scanClass = some a ∧
          s'.scanner.timers = s.scanner.timers.disarm b.scanClass ∧
          .finish a.tag handler ending ∈ (s.fire clock (.radio b)).2) := by
  cases report : r.report? b with
  | none =>
    -- The radio ends the scan in silence.
    refine ⟨{ s with time := max s.time b.dueAt, radio := some r.release }, ?_,
      (sound.move (max s.time b.dueAt) s.attached).release, rfl, rfl, Or.inl ⟨Or.inl ?_, rfl, ?_⟩⟩
    · simp only [fire, Due.time, sound.radio, report]
    · unfold Radio.report? at report
      split at report
      · cases report
      · cases report
      · assumption
    · simp only [fire, sound.radio, report]
  | some event =>
    -- The report is a driver event for the class, which the scanner serves.
    have about : event.interface = r.interface ∧ event.scanClass = b.scanClass := by
      unfold Radio.report? at report
      split at report <;> cases report <;> exact ⟨rfl, rfl⟩
    obtain ⟨goes, driver, -, ends⟩ := Scanner.serve_event sound.scanner sound.running
      (max s.time b.dueAt) (clock (max s.time b.dueAt)) (about.1.trans sound.interface)
    rw [about.2] at ends
    rw [sound.fire_report clock report]
    refine ⟨_, rfl, (sound.serve goes ((congrArg _ driver).trans sound.subscriber)).release, rfl,
      driver, ?_⟩
    rcases ends with ⟨idle, timers, nothing⟩ | ended
    · exact Or.inl ⟨Or.inr idle, timers, nothing⟩
    · exact Or.inr ended

/-- What falls due leaves a station with less to fall due. -/
theorem Sound.load_fire (sound : Sound latencyMs timeoutMs s r []) {due : Due}
    (next : s.nextDue? = some due) : (s.fire clock due).1.load < s.load := by
  cases due with
  | timer a =>
    -- There is one timer less, and the radio has what it had.
    obtain ⟨c, armed⟩ := (nextDue?_timer next).1
    obtain ⟨sound', -, timers, -, -⟩ := sound.fire_timer clock armed
    have less := Timers.length_armed_disarm armed
    rw [sound'.load_eq, sound.load_eq, timers]
    omega
  | radio b =>
    -- There is one scan less, and at most the timers that there were.
    have busy := sound.serving_eq.symm.trans (nextDue?_radio next).1
    obtain ⟨s', fired, sound', -, -, timers⟩ := sound.fire_radio clock b
    have kept : s'.scanner.timers.armed.length ≤ s.scanner.timers.armed.length := by
      rcases timers with ⟨-, same, -⟩ | ⟨a, _, _, armed, less, -⟩
      · exact Nat.le_of_eq (by rw [same])
      · rw [less, ← Timers.length_armed_disarm armed]
        exact Nat.le_succ _
    have timers : s'.feedRadio.scanner.timers = s'.scanner.timers := by
      rw [feedRadio_eq sound']
      rfl
    rw [fired, sound'.feedRadio.load_eq, sound.load_eq, timers, tickets_fedRadio,
      tickets_of_busy busy, List.length_cons]
    omega

theorem feedRadio_frame (s : Station) :
    s.feedRadio.time = s.time ∧ s.feedRadio.scanner.running = s.scanner.running := by
  unfold Station.feedRadio
  split
  · exact ⟨rfl, rfl⟩
  · split <;> exact ⟨rfl, rfl⟩

theorem fire_time (s : Station) (due : Due) : (s.fire clock due).1.time = max s.time due.time := by
  cases due with
  | timer a => rfl
  | radio b =>
    cases radio : s.radio with
    | none => simp only [fire, radio]
    | some r =>
      cases report : r.report? b with
      | none => simp only [fire, radio, report, feedRadio_frame]
      | some event =>
        cases running : s.scanner.running <;>
          simp [fire, radio, report, running, feedRadio_frame]

/-- At a station whose scanner has stopped, nothing that falls due has an effect. -/
theorem fire_stopped {s : Station} (stopped : s.scanner.running = false) (due : Due) :
    (s.fire clock due).1.scanner.running = false ∧ (s.fire clock due).2 = [] := by
  cases due with
  | timer a => simp [fire, Scanner.serve, stopped]
  | radio b =>
    cases radio : s.radio with
    | none => simp [fire, radio, stopped]
    | some r =>
      cases report : r.report? b with
      | none => simp [fire, radio, report, feedRadio_frame, stopped]
      | some event => simp [fire, radio, report, stopped]

theorem elapse_time_le {limit : Nat} (fuel : Nat) {s : Station} (before : s.time ≤ limit) :
    (elapse clock fuel limit s).1.time ≤ limit := by
  induction fuel generalizing s with
  | zero => exact before
  | succ fuel ih =>
    rw [elapse]
    cases s.nextDue? with
    | none => exact before
    | some due =>
      by_cases now : due.time ≤ limit
      · simp only [if_pos now]
        apply ih
        rw [fire_time]
        exact Nat.max_le.2 ⟨before, now⟩
      · simp only [if_neg now]
        exact before

/-- A property of stations and their histories that everything that falls due keeps, while less and
less can fall due, is kept as time passes; and then nothing is left that was due. -/
theorem elapse_induction (limit : Nat) (P : Station → List Incident → Prop)
    (step : ∀ s log due, P s log → s.nextDue? = some due →
      P (s.fire clock due).1 (log ++ [due.incident (s.fire clock due).2]) ∧
        (s.fire clock due).1.load < s.load)
    (fuel : Nat) (s : Station) (log : List Incident) (enough : s.load ≤ fuel) (h : P s log) :
    P (elapse clock fuel limit s).1 (log ++ (elapse clock fuel limit s).2) ∧
      ∀ due, (elapse clock fuel limit s).1.nextDue? = some due → limit < due.time := by
  induction fuel generalizing s log with
  | zero =>
    rw [elapse, List.append_nil]
    refine ⟨h, ?_⟩
    intro due next
    -- A step would leave less than nothing.
    have := (step s log due h next).2
    omega
  | succ fuel ih =>
    rw [elapse]
    cases next : s.nextDue? with
    | none =>
      rw [List.append_nil]
      exact ⟨h, fun due later => by cases next.symm.trans later⟩
    | some due =>
      by_cases now : due.time ≤ limit
      · obtain ⟨h', less⟩ := step s log due h next
        have rest := ih (s.fire clock due).1 _ (by omega) h'
        simp only [if_pos now]
        rwa [List.append_assoc] at rest
      · -- What is due first is not due yet, and nothing else is.
        simp only [if_neg now, List.append_nil]
        refine ⟨h, ?_⟩
        intro due' later
        cases next.symm.trans later
        exact Nat.lt_of_not_le now

/-- Time passes without effect while nothing is due. -/
theorem elapse_of_later (fuel : Nat) {limit : Nat}
    (later : ∀ due, s.nextDue? = some due → limit < due.time) :
    elapse clock fuel limit s = (s, []) := by
  cases fuel with
  | zero => rfl
  | succ fuel =>
    rw [elapse]
    cases next : s.nextDue? with
    | none => rfl
    | some due => exact if_neg (Nat.not_le_of_lt (later due next))

/-- What is due happens first, and the fuel lasts for what is due then. -/
theorem Sound.elapse_of_due (sound : Sound latencyMs timeoutMs s r []) {limit : Nat} {due : Due}
    (next : s.nextDue? = some due) (now : due.time ≤ limit) {fuel : Nat} (enough : s.load ≤ fuel) :
    ∃ fuel', (s.fire clock due).1.load ≤ fuel' ∧
      elapse clock fuel limit s =
        ((elapse clock fuel' limit (s.fire clock due).1).1,
          due.incident (s.fire clock due).2 ::
            (elapse clock fuel' limit (s.fire clock due).1).2) := by
  have less := sound.load_fire clock next
  cases fuel with
  | zero => omega
  | succ fuel => exact ⟨fuel, by omega, by rw [elapse]; simp only [next, if_pos now]⟩

/-- What falls due keeps a station sound. -/
theorem Sound.fire (sound : Sound latencyMs timeoutMs s r []) {due : Due}
    (next : s.nextDue? = some due) :
    ∃ r', Sound latencyMs timeoutMs (s.fire clock due).1 r' [] := by
  cases due with
  | timer a =>
    obtain ⟨c, armed⟩ := (nextDue?_timer next).1
    exact ⟨r, (sound.fire_timer clock armed).1⟩
  | radio b =>
    obtain ⟨s', fired, sound', -⟩ := sound.fire_radio clock b
    exact ⟨_, fired ▸ sound'.feedRadio⟩

/-- All fuel that lasts gives the same. -/
theorem Sound.elapse_fuel (sound : Sound latencyMs timeoutMs s r []) {n m : Nat}
    (enough : s.load ≤ n) (enough' : s.load ≤ m) (limit : Nat) :
    elapse clock n limit s = elapse clock m limit s := by
  induction n generalizing s r m with
  | zero =>
    -- Nothing can fall due, and so nothing does.
    have nothing (due : Due) (next : s.nextDue? = some due) : limit < due.time := by
      have := sound.load_fire clock next
      omega
    rw [elapse_of_later clock _ nothing, elapse_of_later clock _ nothing]
  | succ n ih =>
    cases next : s.nextDue? with
    | none =>
      have nothing (due : Due) (some : s.nextDue? = some due) : limit < due.time := by
        cases next.symm.trans some
      rw [elapse_of_later clock _ nothing, elapse_of_later clock _ nothing]
    | some due =>
      by_cases now : due.time ≤ limit
      · have less := sound.load_fire clock next
        obtain ⟨r', sound'⟩ := sound.fire clock next
        obtain ⟨m', enough', elapsed⟩ := sound.elapse_of_due clock next now enough'
        rw [elapsed, elapse]
        simp only [next, if_pos now]
        rw [ih sound' (by omega) enough']
      · have later (due' : Due) (next' : s.nextDue? = some due') : limit < due'.time := by
          cases next.symm.trans next'
          exact Nat.lt_of_not_le now
        rw [elapse_of_later clock _ later, elapse_of_later clock _ later]

/-- To let time pass is to let it pass up to a moment and then on. -/
theorem Sound.elapse_elapse (sound : Sound latencyMs timeoutMs s r []) {n early late : Nat}
    (enough : s.load ≤ n) (order : early ≤ late) :
    let (s', log) := elapse clock n early s
    let (s'', more) := elapse clock s'.load late s'
    elapse clock n late s = (s'', log ++ more) := by
  induction n generalizing s r with
  | zero =>
    have empty : s.load = 0 := Nat.le_zero.1 enough
    simp only [elapse, empty, List.append_nil]
  | succ n ih =>
    -- What is due early happens first in both, and from there on induction applies.
    by_cases now : ∃ due, s.nextDue? = some due ∧ due.time ≤ early
    · obtain ⟨due, next, now⟩ := now
      have less := sound.load_fire clock next
      obtain ⟨r', sound'⟩ := sound.fire clock next
      have rest := ih sound' (by omega)
      rw [elapse, elapse]
      simp only [next, if_pos now, if_pos (Nat.le_trans now order)]
      simp only [rest, List.cons_append]
    · have later (due : Due) (next : s.nextDue? = some due) : early < due.time :=
        Nat.lt_of_not_le fun soon => now ⟨due, next, soon⟩
      rw [elapse_of_later clock _ later]
      exact sound.elapse_fuel clock enough (Nat.le_refl _) late

end Fire

end WifiScan.Station

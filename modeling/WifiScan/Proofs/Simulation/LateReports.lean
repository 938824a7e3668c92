import WifiScan.Proofs.Simulation.Regimes

/-!
# Reports that come late

A request times out while the radio is still busy with its scan, and the next request of the class
is taken before the radio is done. The report then ends the next request
(`not_staleDiscarded_of_lagging`). Two runs lead there: with one scan that outlasts the timeout
(`late_report`), and with two scans that do so together (`late_report_behind_another`).
-/
namespace WifiScan

/-- Settings without a fault, which ask for few results. -/
def ScanSettings.modest : ScanSettings :=
  (ScanSettings.empty.withMaxApPerScan 4).addBucket ⟨30000, .afterEachScan, .band .ghz24⟩

theorem ScanSettings.fault?_modest : ScanSettings.modest.fault? = none := rfl

/-- A caller starts a scan of a class. -/
def Deed.start (c : ScanClass) : Deed :=
  .call [.start c (some .modest) (some "caller")] fun _ member => by
    cases List.mem_singleton.1 member
    rfl

theorem Wait.length_ofNat {n : Nat} (short : n ≤ Wait.longestMs) :
    Wait.length (UInt64.ofNat n) = n := by
  have fits : n < 2 ^ 64 := Nat.lt_of_le_of_lt short (by decide)
  change min (UInt64.ofNat n).toNat longestMs = n
  rw [UInt64.toNat_ofNat_of_lt' fits, Nat.min_eq_left short]

namespace Station

variable (clock : Nat → UInt64) {latencyMs timeoutMs : UInt64} {s : Station} {r : Radio}
  {time : Nat} {timers : Timers} {serving : Option RadioService} {waiting : List ScanClass}

theorem act_sleep (s : Station) (ms : UInt64) :
    s.act clock (.sleep ms) =
      ({ (elapse clock s.load (Wait.finish s.time ms) s).1 with time := Wait.finish s.time ms },
        (elapse clock s.load (Wait.finish s.time ms) s).2) := rfl

/-- All that decides what happens next at a station whose radio completes every scan: the time, the
timers, the scan that the radio is busy with, and those that wait. -/
structure Looks (latencyMs timeoutMs : UInt64) (s : Station) (r : Radio) (time : Nat)
    (timers : Timers) (serving : Option RadioService) (waiting : List ScanClass) : Prop where
  sound : Sound latencyMs timeoutMs s r []
  accepting : s.driver.accepting = true
  script : r.script = []
  complete : r.defaultOutcome = .complete
  time : s.time = time
  timers : s.scanner.timers = timers
  serving : r.serving = serving
  waiting : r.waiting.map IssuedScan.scanClass = waiting

namespace Looks

theorem nextDue?_timer_of (looks : Looks latencyMs timeoutMs s r time timers serving waiting)
    {a : ArmedTimer} (next : timers.next? = some a)
    (first : ∀ b, serving = some b → a.deadline < b.dueAt) : s.nextDue? = some (.timer a) := by
  have busy : s.radio.bind (·.serving) = serving := looks.sound.serving_eq.trans looks.serving
  simp only [Station.nextDue?, looks.timers, next, busy]
  cases serving with
  | none => rfl
  | some b => exact congrArg some (if_pos (first b rfl))

theorem nextDue?_radio_of {b : RadioService}
    (looks : Looks latencyMs timeoutMs s r time timers (some b) waiting)
    (last : ∀ a, timers.next? = some a → b.dueAt ≤ a.deadline) : s.nextDue? = some (.radio b) := by
  have busy : s.radio.bind (·.serving) = some b := looks.sound.serving_eq.trans looks.serving
  simp only [Station.nextDue?, looks.timers, busy]
  cases next : timers.next? with
  | none => rfl
  | some a => exact congrArg some (if_neg (Nat.not_lt_of_le (last a next)))

/-- Nothing is due while all timers and the radio have time left. -/
theorem later (looks : Looks latencyMs timeoutMs s r time timers serving waiting) (limit : Nat)
    (timersLater : ∀ c a, timers.get c = some a → limit < a.deadline)
    (radioLater : ∀ b, serving = some b → limit < b.dueAt) :
    ∀ due, s.nextDue? = some due → limit < due.time := by
  intro due next
  cases due with
  | timer a =>
    obtain ⟨⟨c, armed⟩, -⟩ := nextDue?_timer next
    exact timersLater c a (looks.timers ▸ armed)
  | radio b =>
    have busy := (nextDue?_radio next).1
    exact radioLater b ((looks.sound.serving_eq.trans looks.serving).symm.trans busy)

theorem pass (looks : Looks latencyMs timeoutMs s r time timers serving waiting) (limit : Nat) :
    Looks latencyMs timeoutMs { s with time := limit } r limit timers serving waiting :=
  ⟨looks.sound.move limit s.attached, looks.accepting, looks.script, looks.complete, rfl,
    looks.timers, looks.serving, looks.waiting⟩

/-- The radio starts on the first scan, if it is free, and the others wait. -/
theorem feedRadio {queue : List IssuedScan} (sound : Sound latencyMs timeoutMs s r queue)
    (accepting : s.driver.accepting = true) (script : r.script = [])
    (complete : r.defaultOutcome = .complete) :
    (∀ b, r.serving = some b →
      Looks latencyMs timeoutMs s.feedRadio (fedRadio s r queue) s.time s.scanner.timers (some b)
        ((r.waiting ++ queue).map IssuedScan.scanClass)) ∧
    ∀ scan rest, r.serving = none → r.waiting ++ queue = scan :: rest →
      Looks latencyMs timeoutMs s.feedRadio (fedRadio s r queue) s.time s.scanner.timers
        (some ⟨scan.scanClass, .complete, s.time + Wait.length latencyMs⟩)
        (rest.map IssuedScan.scanClass) := by
  have fedSound := sound.feedRadio
  have fed := feedRadio_eq sound
  have kept : (fedRadio s r queue).script = [] ∧
      (fedRadio s r queue).defaultOutcome = .complete := by
    unfold fedRadio Radio.begin? Radio.enqueue
    split
    · exact ⟨by rw [script]; rfl, complete⟩
    · exact ⟨script, complete⟩
  have accepts : s.feedRadio.driver.accepting = true := by rw [fed]; exact accepting
  have timers : s.feedRadio.scanner.timers = s.scanner.timers := by rw [fed]; rfl
  have now : s.feedRadio.time = s.time := by rw [fed]; rfl
  constructor
  · -- The radio is busy.
    intro b busy
    rcases fedRadio_cases s r queue with ⟨b', before, serving, waiting⟩ | ⟨idle, -⟩ |
      ⟨_, _, idle, -⟩
    · cases busy.symm.trans before
      exact ⟨fedSound, accepts, kept.1, kept.2, now, timers, serving, by rw [waiting]⟩
    · cases busy.symm.trans idle
    · cases busy.symm.trans idle
  · -- The radio is free.
    intro scan rest idle some
    rcases fedRadio_cases s r queue with ⟨b', before, -⟩ | ⟨-, none, -⟩ |
      ⟨scan', rest', -, some', serving, waiting⟩
    · cases before.symm.trans idle
    · cases none.symm.trans some
    · cases some.symm.trans some'
      refine ⟨fedSound, accepts, kept.1, kept.2, now, timers, ?_, by rw [waiting]⟩
      rw [serving, script, complete, sound.latency]
      rfl

/-- A timer that fires leaves the radio alone. -/
theorem fire_timer (looks : Looks latencyMs timeoutMs s r time timers serving waiting)
    {c : ScanClass} {a : ArmedTimer} (armed : timers.get c = some a) :
    Looks latencyMs timeoutMs (s.fire clock (.timer a)).1 r (max time a.deadline)
        (timers.disarm c) serving waiting ∧
      armedBy (s.fire clock (.timer a)).2 = [] := by
  obtain ⟨sound, now, timers', driver, nothing⟩ :=
    looks.sound.fire_timer clock (looks.timers ▸ armed)
  refine ⟨⟨sound, driver ▸ looks.accepting, looks.script, looks.complete, ?_, ?_, looks.serving,
    looks.waiting⟩, nothing⟩
  · rw [now, looks.time]
  · rw [timers', looks.timers]

/-- A report ends the request in flight of its class, and then the next scan starts. -/
theorem fire_radio {b : RadioService} {c : ScanClass}
    (looks : Looks latencyMs timeoutMs s r time timers (some b) (c :: waiting))
    (loud : b.outcome ≠ .silent) :
    ∃ r', Looks latencyMs timeoutMs (s.fire clock (.radio b)).1 r' (max time b.dueAt)
      (timers.disarm b.scanClass)
      (some ⟨c, .complete, max time b.dueAt + Wait.length latencyMs⟩) waiting := by
  obtain ⟨s', fired, sound, now, driver, ends⟩ := looks.sound.fire_radio clock b
  rw [looks.timers] at ends
  -- A report that finds no request finds no timer either.
  have ended : s'.scanner.timers = timers.disarm b.scanClass := by
    rcases ends with ⟨silent | idle, same, -⟩ | ⟨_, _, _, -, ended, -⟩
    · exact absurd silent loud
    · rw [same, Timers.disarm_eq_self _ idle]
    · exact ended
  obtain ⟨scan, rest, some, rfl, rfl⟩ := List.map_eq_cons_iff.1 looks.waiting
  have next := (feedRadio sound (driver ▸ looks.accepting) looks.script looks.complete).2 scan rest
    rfl (by rw [List.append_nil]; exact some)
  rw [fired]
  rw [now, looks.time, ended] at next
  exact ⟨_, next⟩

/-- A report to a class with a request is not without effect. -/
theorem effects_of_report {b : RadioService} {a : ArmedTimer}
    (looks : Looks latencyMs timeoutMs s r time timers (some b) waiting)
    (loud : b.outcome ≠ .silent) (armed : timers.get b.scanClass = some a) :
    (s.fire clock (.radio b)).2 ≠ [] := by
  obtain ⟨s', -, -, -, -, ends⟩ := looks.sound.fire_radio clock b
  rw [looks.timers] at ends
  intro nothing
  rcases ends with ⟨silent | idle, -⟩ | ⟨_, _, _, -, -, told⟩
  · exact loud silent
  · cases idle.symm.trans armed
  · rw [nothing] at told
    cases told

/-- A caller's start is taken. The radio starts on its scan at once if it is free, and nothing else
happens yet if no timer and no scan is due. -/
theorem start (looks : Looks latencyMs timeoutMs s r time timers serving waiting)
    (free : serving = none → waiting = []) {c : ScanClass} (idle : timers.get c = none)
    (patient : 0 < Wait.length timeoutMs)
    (timersLater : ∀ d a, timers.get d = some a → time < a.deadline)
    (radioLater : time < (serving.getD ⟨c, .complete, time + Wait.length latencyMs⟩).dueAt) :
    ∃ r' tag effects, tag.scanClass = c ∧ armedBy effects = [tag] ∧
      (s.act clock (.start c)).2 = [.acted effects] ∧
      Looks latencyMs timeoutMs (s.act clock (.start c)).1 r' time
        (timers.set c (some ⟨tag, time + Wait.length timeoutMs⟩))
        (some (serving.getD ⟨c, .complete, time + Wait.length latencyMs⟩))
        (if serving.isSome then waiting ++ [c] else []) := by
  have sound := looks.sound
  obtain rfl := looks.time
  have taken := Scanner.serve_start_takes sound.scanner sound.running looks.accepting s.time
    (clock s.time) (looks.timers ▸ idle) ScanSettings.fault?_modest "caller"
  generalize out : s.scanner.serve s.time (clock s.time)
    (.start c (some .modest) (some "caller")) = o at taken
  obtain ⟨scanner, effects, answer⟩ := o
  obtain ⟨goes, accepts, tag, scan, rfl, armed, ticket, subscriber, timers'⟩ := taken
  rw [looks.timers, sound.timeout] at timers'
  have served : Sound latencyMs timeoutMs { s with scanner } r [scan] :=
    sound.serve goes (subscriber.trans (congrArg (Option.map (· ++ [scan])) sound.subscriber))
  obtain ⟨goesOn, startsOn⟩ := feedRadio served accepts looks.script looks.complete
  have fed : ∃ r', Looks latencyMs timeoutMs (Station.feedRadio { s with scanner }) r' s.time
      (timers.set tag.scanClass (some ⟨tag, s.time + Wait.length timeoutMs⟩))
      (some (serving.getD ⟨tag.scanClass, .complete, s.time + Wait.length latencyMs⟩))
      (if serving.isSome then waiting ++ [tag.scanClass] else []) := by
    cases busy : serving with
    | some b =>
      have next := goesOn b (looks.serving.trans busy)
      rw [List.map_append, looks.waiting, List.map_singleton, ticket, timers'] at next
      exact ⟨_, next⟩
    | none =>
      have nothing : r.waiting = [] := List.map_eq_nil_iff.1 (looks.waiting.trans (free busy))
      have next := startsOn scan [] (looks.serving.trans busy) (by rw [nothing]; rfl)
      rw [ticket, timers'] at next
      exact ⟨_, next⟩
  obtain ⟨r', fed⟩ := fed
  -- Nothing was due before, and neither the new timer nor the new scan is due at once.
  have quiet := elapse_of_later clock (Station.feedRadio { s with scanner }).load
    (fed.later s.time ?_ ?_)
  · have acted : s.act clock (.start tag.scanClass) =
        (Station.feedRadio { s with scanner }, [.acted (effects ++ [])]) := by
      simp only [act, Deed.start, Scanner.call, sound.running, if_true, Scanner.serveAll, out]
      rw [fed.time, quiet]
    rw [acted]
    exact ⟨r', tag, _, rfl, by rw [List.append_nil]; exact armed, rfl, fed⟩
  · intro d a later
    by_cases own : d = tag.scanClass
    · -- The timer that is armed now
      subst own
      rw [PerClass.get_set_self] at later
      cases later
      exact Nat.lt_add_of_pos_right patient
    · -- A timer that was armed before
      rw [PerClass.get_set_of_ne _ _ own] at later
      exact timersLater d a later
  · intro b busy
    cases busy
    exact radioLater

/-- The last timer fires, and then nothing is due for a while. -/
theorem elapse_timer (looks : Looks latencyMs timeoutMs s r time timers serving waiting)
    {c : ScanClass} {a : ArmedTimer} (armed : timers.get c = some a)
    (only : ∀ d, d ≠ c → timers.get d = none) {limit : Nat} (due : a.deadline ≤ limit)
    (radioLater : ∀ b, serving = some b → limit < b.dueAt) {fuel : Nat} (enough : s.load ≤ fuel) :
    ∃ effects, armedBy effects = [] ∧ (elapse clock fuel limit s).2 = [.acted effects] ∧
      Looks latencyMs timeoutMs (elapse clock fuel limit s).1 r (max time a.deadline)
        (timers.disarm c) serving waiting := by
  -- The timer is the only one, so it is the next to fire.
  have next : timers.next? = some a := by
    cases next : timers.next? with
    | none => cases (Timers.next?_eq_none next c).symm.trans armed
    | some a' =>
      obtain ⟨⟨d, armed'⟩, -⟩ := Timers.next?_eq_some next
      by_cases same : d = c
      · subst same
        exact armed'.symm.trans armed
      · cases (only d same).symm.trans armed'
  have first := looks.nextDue?_timer_of next fun b busy =>
    Nat.lt_of_le_of_lt due (radioLater b busy)
  obtain ⟨fuel', -, elapsed⟩ := looks.sound.elapse_of_due clock first due enough
  obtain ⟨fired, nothing⟩ := looks.fire_timer clock armed
  -- After it nothing is due until the limit.
  have quiet := elapse_of_later clock fuel' (fired.later limit (fun d a' left => by
    rw [Timers.get_disarm] at left
    split at left
    next => cases left
    next other => cases (only d other).symm.trans left) radioLater)
  rw [elapsed, quiet]
  exact ⟨_, nothing, rfl, fired⟩

end Looks

theorem looks_initial (config : EngineConfig) (driver : VirtualDriver) (radio : RadioConfig)
    (accepting : driver.accepting = true) (interface : radio.interface = driver.interface)
    (script : radio.scriptedOutcomes = []) (complete : radio.defaultOutcome = .complete) :
    Looks radio.latencyMs config.scanTimeoutMs (initial config driver (some radio))
      (.initial radio) 0 .idle none [] :=
  ⟨⟨Scanner.sound_initial config _, rfl, rfl, rfl, rfl, rfl, rfl, interface⟩, accepting, script,
    complete, rfl, rfl, rfl, rfl⟩

/-! ### The next request pays -/

/-- The radio is busy with a background scan whose request has timed out already, and will be done
before a request that is made now times out. Such a request is then ended by the report about the
other. -/
theorem not_staleDiscarded_of_lagging {done : Nat}
    (looks : Looks latencyMs timeoutMs s r time timers (some ⟨.background, .complete, done⟩) [])
    (idle : ∀ c, timers.get c = none) {log : List Incident} {tag : TimerTag}
    (alone : outstanding log = [tag]) (background : tag.scanClass = .background)
    (busy : time < done) (soon : done ≤ time + Wait.length timeoutMs)
    (short : done - time ≤ Wait.longestMs) :
    ¬StaleDiscarded (log ++ (s.history clock
      [.start .background, .sleep (.ofNat (done - time))]).2) := by
  intro discarded
  obtain ⟨r', next, effects, class_eq, armed, acted, looks'⟩ :=
    looks.start clock (fun free => by cases free) (idle .background) (by omega)
      (fun d a running => by cases (idle d).symm.trans running) busy
  generalize started : s.act clock (.start .background) = out at acted looks'
  obtain ⟨s', log'⟩ := out
  subst acted
  -- The radio is done before the timer of the new request fires.
  have arrives : Wait.finish s'.time (.ofNat (done - time)) = done := by
    change s'.time + Wait.length _ = done
    rw [Wait.length_ofNat short, looks'.time]
    omega
  have first : s'.nextDue? = some (.radio ⟨.background, .complete, done⟩) := by
    apply looks'.nextDue?_radio_of
    intro a armed
    obtain ⟨⟨c, own⟩, -⟩ := Timers.next?_eq_some armed
    by_cases same : c = .background
    · subst same
      rw [PerClass.get_set_self] at own
      cases own
      exact soon
    · rw [PerClass.get_set_of_ne _ _ same, idle] at own
      cases own
  obtain ⟨fuel, -, elapsed⟩ :=
    looks'.sound.elapse_of_due clock first (Nat.le_refl done) (Nat.le_refl _)
  -- Its report is not without effect, and the one outstanding scan is that of the other request.
  have loud := looks'.effects_of_report clock (fun silent => by cases silent)
    (PerClass.get_set_self timers .background _)
  have reported := discarded (log ++ [.acted effects])
    (s'.fire clock (.radio ⟨.background, .complete, done⟩)).2
    (elapse clock fuel done (s'.fire clock (.radio ⟨.background, .complete, done⟩)).1).2 (by
      simp only [history, started, act_sleep, arrives, elapsed, List.append_nil,
        List.append_assoc, List.singleton_append]
      rfl)
  rw [outstanding_concat, alone, Incident.carry, armed] at reported
  rcases reported with nothing | ⟨request, later, split, others, -⟩
  · exact loud nothing
  · obtain ⟨rfl, rfl⟩ := List.cons.inj split
    exact others next (List.mem_singleton_self next) (class_eq.trans background.symm)

/-- A station at which requests time out after `timeoutMs` and scans take `latencyMs`. -/
def paced (latencyMs timeoutMs : UInt64) : Station :=
  initial { EngineConfig.standard with scanTimeoutMs := timeoutMs } (.initial .standard)
    (some { RadioConfig.standard with latencyMs })

theorem looks_paced (latencyMs timeoutMs : UInt64) :
    ∃ r, Looks latencyMs timeoutMs (paced latencyMs timeoutMs) r 0 .idle none [] :=
  ⟨_, looks_initial { EngineConfig.standard with scanTimeoutMs := timeoutMs } (.initial .standard)
    { RadioConfig.standard with latencyMs } rfl rfl rfl rfl⟩

/-- A request times out, and the next one is made a millisecond before the radio is done with its
scan. -/
def lateDeeds (latencyMs : UInt64) : List Deed :=
  [.start .background, .sleep (.ofNat (Wait.length latencyMs - 1)), .start .background,
    .sleep (.ofNat (Wait.length latencyMs - (Wait.length latencyMs - 1)))]

/-- A scan that takes longer than the timeout is reported to the next request. -/
theorem late_report (patient : 0 < Wait.length timeoutMs)
    (slow : Wait.length timeoutMs < Wait.length latencyMs) :
    ¬StaleDiscarded ((paced latencyMs timeoutMs).history clock (lateDeeds latencyMs)).2 := by
  have short : Wait.length latencyMs ≤ Wait.longestMs := Nat.min_le_right ..
  obtain ⟨r₀, looks₀⟩ := looks_paced latencyMs timeoutMs
  obtain ⟨r, tag, effects, background, armed, acted, looks₁⟩ :=
    looks₀.start clock (fun _ => rfl) (c := .background) rfl patient
      (fun d a running => by cases d <;> cases running)
      (by simp only [Option.getD_none]; omega)
  generalize started : (paced latencyMs timeoutMs).act clock (.start .background) = out
    at acted looks₁
  obtain ⟨s₁, log₁⟩ := out
  subst acted
  -- The timer fires during the first sleep, and the radio is not done at its end.
  have limit : Wait.finish s₁.time (.ofNat (Wait.length latencyMs - 1)) =
      Wait.length latencyMs - 1 := by
    change s₁.time + Wait.length _ = _
    rw [Wait.length_ofNat (by omega), looks₁.time, Nat.zero_add]
  obtain ⟨more, nothing, fired, looks₂⟩ := looks₁.elapse_timer clock
    (PerClass.get_set_self Timers.idle .background _)
    (fun d other => by rw [PerClass.get_set_of_ne _ _ other]; cases d <;> rfl)
    (show 0 + Wait.length timeoutMs ≤ Wait.length latencyMs - 1 by omega)
    (fun b busy => by cases busy; simp only [Option.getD_none]; omega) (Nat.le_refl _)
  have alone : outstanding [.acted effects, .acted more] = [tag] := by
    simp [outstanding, Incident.carry, armed, nothing]
  have lagging := not_staleDiscarded_of_lagging clock (looks₂.pass (Wait.length latencyMs - 1))
    (fun d => by rw [Timers.get_disarm]; cases d <;> rfl) alone background
    (by omega) (by omega) (by omega)
  simp only [Nat.zero_add] at lagging
  simpa only [lateDeeds, history, started, act_sleep, limit, fired, List.append_nil,
    List.cons_append, List.nil_append, List.append_assoc] using lagging

/-- A request waits behind another for the radio and times out, and the next one is made at once. -/
def backlogDeeds (latencyMs timeoutMs : UInt64) : List Deed :=
  [.start .single, .start .background, .sleep timeoutMs, .start .background,
    .sleep (.ofNat (2 * Wait.length latencyMs - Wait.length timeoutMs))]

/-- A scan that is done in time lets the scan behind it be done late. -/
theorem late_report_behind_another (busy : 0 < Wait.length latencyMs)
    (first : Wait.length latencyMs ≤ Wait.length timeoutMs)
    (slow : Wait.length timeoutMs < 2 * Wait.length latencyMs) :
    ¬StaleDiscarded
      ((paced latencyMs timeoutMs).history clock (backlogDeeds latencyMs timeoutMs)).2 := by
  have short : Wait.length latencyMs ≤ Wait.longestMs := Nat.min_le_right ..
  have patient : 0 < Wait.length timeoutMs := by omega
  obtain ⟨r₀, looks₀⟩ := looks_paced latencyMs timeoutMs
  obtain ⟨r₁, tag₁, effects₁, -, armed₁, acted₁, looks₁⟩ :=
    looks₀.start clock (fun _ => rfl) (c := .single) rfl patient
      (fun d a running => by cases d <;> cases running)
      (by simp only [Option.getD_none]; omega)
  generalize started₁ : (paced latencyMs timeoutMs).act clock (.start .single) = out
    at acted₁ looks₁
  obtain ⟨s₁, log₁⟩ := out
  subst acted₁
  simp only [Option.getD_none, Nat.zero_add] at looks₁
  obtain ⟨r₂, tag₂, effects₂, background, armed₂, acted₂, looks₂⟩ :=
    looks₁.start clock (fun free => by cases free) (c := .background) rfl patient
      (fun d a running => by
        cases d with
        | single => cases running; exact patient
        | background => cases running)
      busy
  generalize started₂ : s₁.act clock (.start .background) = out at acted₂ looks₂
  obtain ⟨s₂, log₂⟩ := out
  subst acted₂
  simp only [Option.getD_some, Option.isSome_some, if_true, Option.isSome_none,
    Bool.false_eq_true, if_false, List.nil_append, Nat.zero_add] at looks₂
  have limit : Wait.finish s₂.time timeoutMs = Wait.length timeoutMs := by
    change s₂.time + Wait.length _ = _
    rw [looks₂.time, Nat.zero_add]
  -- The single scan is done before the timers fire, and the background scan begins.
  have next := looks₂.nextDue?_radio_of fun a armed => by
    obtain ⟨⟨c, own⟩, -⟩ := Timers.next?_eq_some armed
    cases c <;> cases own <;> exact first
  obtain ⟨fuel, enough, elapsed⟩ := looks₂.sound.elapse_of_due clock next first (Nat.le_refl _)
  obtain ⟨r₃, looks₃⟩ := looks₂.fire_radio clock (fun silent => by cases silent)
  simp only [Nat.zero_max, ← Nat.two_mul] at looks₃
  -- The timer of the background scan fires while the radio is busy with it.
  obtain ⟨more, nothing, fired, looks₄⟩ := looks₃.elapse_timer clock (c := .background) rfl
    (fun d other => by cases d with
      | single => rfl
      | background => exact absurd rfl other)
    (Nat.le_refl (Wait.length timeoutMs)) (fun b busy => by cases busy; exact slow) enough
  have alone : outstanding [.acted effects₁, .acted effects₂,
      .ended (s₂.fire clock (.radio ⟨.single, .complete, Wait.length latencyMs⟩)).2,
      .acted more] = [tag₂] := by
    simp [outstanding, Incident.carry, armed₁, armed₂, nothing]
  have lagging := not_staleDiscarded_of_lagging clock (looks₄.pass (Wait.length timeoutMs))
    (fun d => by cases d <;> rfl) alone background (by omega) (by omega) (by omega)
  simpa only [backlogDeeds, history, started₁, started₂, act_sleep, limit, elapsed, fired,
    Due.incident, List.append_nil, List.cons_append, List.nil_append, List.append_assoc]
    using lagging

end Station

end WifiScan

import WifiScan.Proofs.Simulation.Stations

/-!
# Regimes

A regime is a condition on timers and outstanding scans that everything keeps that happens at a
station, and under which a report of the radio is only ever about the request in flight. Under a
regime no report ends a request that it is not about (`Regime.staleDiscarded`).
-/
namespace WifiScan

/-- Whether what the radio ended was the scan of the request that it ended, or of none. The request
that a scan is about is the first outstanding one; it is itself in flight only if no later request
of its class was taken. -/
def EndsOwn (waiting : List TimerTag) (effects : List Effect) : Prop :=
  effects = [] ∨ ∃ request later, waiting = request :: later ∧
    (∀ tag ∈ later, tag.scanClass ≠ request.scanClass) ∧
    ∃ handler ending, .finish request handler ending ∈ effects

/-- In a history, every report of the radio ends the very request that it is about or is
discarded. -/
def StaleDiscarded (log : List Incident) : Prop :=
  ∀ before effects after, log = before ++ .ended effects :: after →
    EndsOwn (outstanding before) effects

theorem staleDiscarded_nil : StaleDiscarded [] := by
  intro before effects after split
  simp at split

theorem StaleDiscarded.concat {log : List Incident} (discarded : StaleDiscarded log)
    {i : Incident} (own : ∀ effects, i = .ended effects → EndsOwn (outstanding log) effects) :
    StaleDiscarded (log ++ [i]) := by
  intro before effects after split
  rcases List.eq_nil_or_concat after with rfl | ⟨rest, last, rfl⟩
  · -- The report is the last incident.
    obtain ⟨same, here⟩ := List.append_inj' split rfl
    subst same
    exact own effects (List.cons.inj here).1
  · -- The report was in the history before.
    have earlier : log ++ [i] = (before ++ .ended effects :: rest) ++ [last] := by
      rw [split, List.concat_eq_append, List.append_assoc, List.cons_append]
    exact discarded before effects rest (List.append_inj' earlier rfl).1

/-- What matters of a station for its reports: its timers, the scan that the radio is busy with, and
the requests whose scans are outstanding, this one included. -/
structure Moment where
  time : Nat
  timers : Timers
  serving : Option RadioService
  scans : List TimerTag

/-- A condition on moments that is kept as requests are taken, as time passes and timers fire, and
as the radio ends scans. -/
structure Regime (latency timeout : Nat) (Q : Moment → Prop) : Prop where
  initial : Q ⟨0, .idle, none, []⟩
  /-- A request is taken, of a class without one. -/
  taken : ∀ m tag, Q m → m.timers.get tag.scanClass = none →
    Q { m with
      timers := m.timers.set tag.scanClass (some ⟨tag, m.time + timeout⟩)
      scans := m.scans ++ [tag] }
  /-- The radio starts on the first scan. -/
  started : ∀ m c outcome, Q m → m.serving = none → m.scans ≠ [] →
    Q { m with serving := some ⟨c, outcome, m.time + latency⟩ }
  /-- A timer fires before the radio is done. -/
  expired : ∀ m c a, Q m → (m.serving = none → m.scans = []) → m.timers.get c = some a →
    (∀ b, m.serving = some b → a.deadline < b.dueAt) →
    Q { m with time := max m.time a.deadline, timers := m.timers.disarm c }
  /-- When the radio is done before any timer, it is done with the request in flight. -/
  own : ∀ m b tag later a, Q m → m.serving = some b → m.scans = tag :: later →
    tag.scanClass = b.scanClass → (∀ c a, m.timers.get c = some a → b.dueAt ≤ a.deadline) →
    m.timers.get b.scanClass = some a →
    a.tag = tag ∧ ∀ other ∈ later, other.scanClass ≠ tag.scanClass
  /-- The radio is done, and the request ends. -/
  ended : ∀ m b tag later, Q m → m.serving = some b → m.scans = tag :: later →
    tag.scanClass = b.scanClass → (∀ c a, m.timers.get c = some a → b.dueAt ≤ a.deadline) →
    Q ⟨max m.time b.dueAt, m.timers.disarm b.scanClass, none, later⟩
  /-- The radio is done and says nothing, or nobody listens. -/
  silent : ∀ m b tag later, Q m → m.serving = some b → m.scans = tag :: later →
    tag.scanClass = b.scanClass → (∀ c a, m.timers.get c = some a → b.dueAt ≤ a.deadline) →
    Q ⟨max m.time b.dueAt, m.timers, none, later⟩
  /-- Time passes while the radio is busy or has nothing to do. -/
  passed : ∀ m limit, Q m → (m.serving = none → m.scans = []) → m.time ≤ limit →
    (∀ b, m.serving = some b → limit < b.dueAt) → Q { m with time := limit }

namespace Station

variable {latencyMs timeoutMs : UInt64} {Q : Moment → Prop} {s : Station} {r : Radio}
  {queue : List IssuedScan} {scans : List TimerTag}

/-- The moment of a station. -/
def moment (s : Station) (r : Radio) (scans : List TimerTag) : Moment :=
  ⟨s.time, s.scanner.timers, r.serving, scans⟩

/-- A sound station in a condition; its scans are those of the outstanding requests. -/
structure Follows (latencyMs timeoutMs : UInt64) (Q : Moment → Prop) (s : Station) (r : Radio)
    (queue : List IssuedScan) (scans : List TimerTag) : Prop where
  sound : Sound latencyMs timeoutMs s r queue
  tickets : scans.map TimerTag.scanClass = tickets r queue
  holds : Q (s.moment r scans)

namespace Follows

theorem scans_of_fed (follows : Follows latencyMs timeoutMs Q s r queue scans)
    (fed : Fed r queue) : r.serving = none → scans = [] := by
  intro idle
  have none := follows.tickets
  rw [Station.tickets, idle, fed.2 idle, fed.1] at none
  exact List.map_eq_nil_iff.1 none

theorem scans_of_busy (follows : Follows latencyMs timeoutMs Q s r queue scans) {b : RadioService}
    (busy : r.serving = some b) :
    ∃ tag later, scans = tag :: later ∧ tag.scanClass = b.scanClass ∧
      later.map TimerTag.scanClass = Station.tickets r.release queue := by
  have some := follows.tickets
  rw [tickets_of_busy busy] at some
  exact List.map_eq_cons_iff.1 some

variable [Wait]

/-- A station keeps its condition as the radio is handed the commands. -/
theorem feedRadio (regime : Regime (Wait.length latencyMs) (Wait.length timeoutMs) Q)
    (follows : Follows latencyMs timeoutMs Q s r queue scans) :
    Follows latencyMs timeoutMs Q s.feedRadio (fedRadio s r queue) [] scans := by
  refine ⟨follows.sound.feedRadio, follows.tickets.trans (tickets_fedRadio s r queue).symm, ?_⟩
  have timers : s.feedRadio.scanner.timers = s.scanner.timers ∧ s.feedRadio.time = s.time := by
    rw [feedRadio_eq follows.sound]
    exact ⟨rfl, rfl⟩
  have holds := follows.holds
  simp only [moment, timers.1, timers.2] at holds ⊢
  rcases fedRadio_cases s r queue with ⟨b, before, busy, -⟩ | ⟨before, -, idle, -⟩ |
    ⟨scan, rest, before, some, busy, -⟩
  · -- The radio goes on with its scan.
    rw [busy, ← before]
    exact holds
  · -- The radio has nothing to do.
    rw [idle, ← before]
    exact holds
  · -- The radio starts on a scan, and some request is outstanding for it.
    rw [busy, follows.sound.latency]
    apply regime.started _ scan.scanClass _ holds before
    intro none
    have tickets := follows.tickets
    simp [Station.tickets, before, some, show scans = [] from none] at tickets

/-- A caller's command keeps the condition, unless it stops the scanner. -/
theorem serve (regime : Regime (Wait.length latencyMs) (Wait.length timeoutMs) Q)
    (follows : Follows latencyMs timeoutMs Q s r queue scans) (now : UInt64) {c : Command}
    (callers : c.isCallers = true) :
    let (scanner, effects, _) := s.scanner.serve s.time now c
    scanner.running = true →
      ∃ queue', Follows latencyMs timeoutMs Q { s with scanner } r queue'
        (scans ++ armedBy effects) := by
  intro running
  rcases Scanner.serve_callers follows.sound.scanner follows.sound.running s.time now callers with
    stopped | ⟨goes, ⟨subscriber, timers, armed⟩ |
      ⟨tag, scan, armed, ticket, subscriber, idle, timers⟩⟩
  · cases stopped.symm.trans running
  · -- No request is taken, and no timer changes.
    refine ⟨queue, follows.sound.serve goes (subscriber.trans follows.sound.subscriber), ?_, ?_⟩
    · rw [armed, List.append_nil, follows.tickets]
    · have holds := follows.holds
      simp only [moment, armed, List.append_nil, timers] at holds ⊢
      exact holds
  · -- A request is taken, and its command waits behind the others.
    refine ⟨queue ++ [scan], follows.sound.serve goes ?_, ?_, ?_⟩
    · rw [subscriber]
      exact congrArg (Option.map (· ++ [scan])) follows.sound.subscriber
    · rw [armed, List.map_append, follows.tickets]
      simp [Station.tickets, ticket]
    · have holds := regime.taken _ tag follows.holds idle
      simp only [moment, armed, timers, follows.sound.timeout] at holds ⊢
      exact holds

/-- Callers' commands keep the condition, unless one stops the scanner. -/
theorem serveAll (regime : Regime (Wait.length latencyMs) (Wait.length timeoutMs) Q) (now : UInt64)
    (cs : List Command) (callers : ∀ c ∈ cs, c.isCallers = true)
    (follows : s.scanner.running = true →
      ∃ queue, Follows latencyMs timeoutMs Q s r queue scans) :
    let (scanner, effects, _) := s.scanner.serveAll s.time now cs
    scanner.running = true →
      ∃ queue, Follows latencyMs timeoutMs Q { s with scanner } r queue
        (scans ++ armedBy effects) := by
  induction cs generalizing s scans with
  | nil => simpa [Scanner.serveAll, armedBy] using follows
  | cons c cs ih =>
    have first : (s.scanner.serve s.time now c).1.running = true →
        ∃ queue, Follows latencyMs timeoutMs Q
          { s with scanner := (s.scanner.serve s.time now c).1 } r queue
          (scans ++ armedBy (s.scanner.serve s.time now c).2.1) := by
      intro running
      -- A scanner that runs afterwards has run before.
      have before : s.scanner.running = true := by
        have live := s.scanner.receive_running (.command s.time now c)
        exact (Bool.and_eq_true_iff.1 (live.symm.trans running)).1
      obtain ⟨queue, follows⟩ := follows before
      exact follows.serve regime now (callers c List.mem_cons_self) running
    have rest := @ih { s with scanner := (s.scanner.serve s.time now c).1 } _
      (fun c member => callers c (List.mem_cons_of_mem _ member)) first
    simpa only [Scanner.serveAll, armedBy_append, List.append_assoc] using rest

/-- What falls due keeps the condition; and if the radio ends a scan, it ends the request that the
scan is about or none. -/
theorem fire (regime : Regime (Wait.length latencyMs) (Wait.length timeoutMs) Q)
    (clock : Nat → UInt64) (follows : Follows latencyMs timeoutMs Q s r [] scans)
    (fed : Fed r []) {due : Due} (next : s.nextDue? = some due) :
    (∃ r', Follows latencyMs timeoutMs Q (s.fire clock due).1 r' []
        ((due.incident (s.fire clock due).2).carry scans) ∧ Fed r' []) ∧
      ∀ effects, due.incident (s.fire clock due).2 = .ended effects → EndsOwn scans effects := by
  have sound := follows.sound
  cases due with
  | timer a =>
    obtain ⟨⟨c, armed⟩, first⟩ := nextDue?_timer next
    obtain ⟨sound', time, timers, -, nothing⟩ := sound.fire_timer clock armed
    refine ⟨⟨r, ⟨sound', ?_, ?_⟩, fed⟩, fun effects ended => by cases ended⟩
    · simp only [Due.incident, Incident.carry, nothing, List.append_nil, follows.tickets]
    · have holds := regime.expired _ c a follows.holds (follows.scans_of_fed fed) armed
        fun b busy => first b (sound.serving_eq.trans busy)
      simp only [moment, Due.incident, Incident.carry, nothing, List.append_nil, time, timers]
        at holds ⊢
      exact holds
  | radio b =>
    obtain ⟨serving, last⟩ := nextDue?_radio next
    have busy := sound.serving_eq.symm.trans serving
    obtain ⟨tag, later, scans_eq, ticket, tickets⟩ := follows.scans_of_busy busy
    obtain ⟨s', fired, sound', time, -, timers⟩ := sound.fire_radio clock b
    subst scans_eq
    have released : Follows latencyMs timeoutMs Q s' r.release [] later := by
      refine ⟨sound', tickets, ?_⟩
      rcases timers with ⟨-, timers, -⟩ | ⟨a, _, _, armed, timers, -⟩
      · have holds := regime.silent _ b tag later follows.holds busy rfl ticket last
        simp only [moment, time, timers] at holds ⊢
        exact holds
      · have holds := regime.ended _ b tag later follows.holds busy rfl ticket last
        simp only [moment, time, timers] at holds ⊢
        exact holds
    constructor
    · rw [fired]
      exact ⟨_, released.feedRadio regime, fed_fedRadio ..⟩
    · -- Either nobody was told, or the request with the armed timer was, which is the one that the
      -- scan is about.
      intro effects ended
      cases ended
      rcases timers with ⟨-, -, nothing⟩ | ⟨a, handler, ending, armed, -, told⟩
      · exact Or.inl nothing
      · obtain ⟨same, others⟩ :=
          regime.own _ b tag later a follows.holds busy rfl ticket last armed
        exact Or.inr ⟨tag, later, rfl, others, handler, ending, same ▸ told⟩

end Follows

variable [Wait]

/-- Once the scanner has stopped, what the radio reports has no effect. -/
theorem elapse_stopped (clock : Nat → UInt64) (fuel limit : Nat) {s : Station}
    {log : List Incident} (stopped : s.scanner.running = false) (discarded : StaleDiscarded log) :
    (elapse clock fuel limit s).1.scanner.running = false ∧
      StaleDiscarded (log ++ (elapse clock fuel limit s).2) := by
  induction fuel generalizing s log with
  | zero => exact ⟨stopped, by simpa only [elapse, List.append_nil] using discarded⟩
  | succ fuel ih =>
    rw [elapse]
    cases s.nextDue? with
    | none => exact ⟨stopped, by simpa only [List.append_nil] using discarded⟩
    | some due =>
      by_cases now : due.time ≤ limit
      · obtain ⟨still, nothing⟩ := fire_stopped clock stopped due
        have kept : StaleDiscarded (log ++ [due.incident (s.fire clock due).2]) := by
          refine discarded.concat fun effects ended => Or.inl ?_
          rw [nothing] at ended
          cases due <;> cases ended
          rfl
        have rest := ih still kept
        simp only [if_pos now]
        rwa [List.append_assoc] at rest
      · simp only [if_neg now, List.append_nil]
        exact ⟨stopped, discarded⟩

/-- What is known of a station with its history under a regime. -/
def Watched (latencyMs timeoutMs : UInt64) (Q : Moment → Prop) (s : Station)
    (log : List Incident) : Prop :=
  StaleDiscarded log ∧
    (s.scanner.running = true →
      ∃ r, Follows latencyMs timeoutMs Q s r [] (outstanding log) ∧ Fed r [])

namespace Watched

variable {log : List Incident} (clock : Nat → UInt64)

/-- As time passes, what is known is kept, and nothing is left that was due. -/
theorem elapse (regime : Regime (Wait.length latencyMs) (Wait.length timeoutMs) Q)
    (watched : Watched latencyMs timeoutMs Q s log) (limit : Nat) :
    let (s', more) := Station.elapse clock s.load limit s
    Watched latencyMs timeoutMs Q s' (log ++ more) ∧
      (s'.scanner.running = true → ∀ due, s'.nextDue? = some due → limit < due.time) := by
  cases running : s.scanner.running with
  | true =>
    obtain ⟨known, done⟩ := elapse_induction clock limit
      (fun s log => StaleDiscarded log ∧
        ∃ r, Follows latencyMs timeoutMs Q s r [] (outstanding log) ∧ Fed r [])
      (fun s log due ⟨discarded, r, follows, fed⟩ next => by
        obtain ⟨kept, own⟩ := follows.fire regime clock fed next
        rw [outstanding_concat]
        exact ⟨⟨discarded.concat own, kept⟩, follows.sound.load_fire clock next⟩)
      s.load s log (Nat.le_refl _) ⟨watched.1, watched.2 running⟩
    exact ⟨⟨known.1, fun _ => known.2⟩, fun _ => done⟩
  | false =>
    obtain ⟨still, discarded⟩ := elapse_stopped clock s.load limit running watched.1
    exact ⟨⟨discarded, fun runs => by cases still.symm.trans runs⟩,
      fun runs => by cases still.symm.trans runs⟩

/-- After an incident that is not the radio's, the radio is fed and what is due happens. -/
theorem settle (regime : Regime (Wait.length latencyMs) (Wait.length timeoutMs) Q)
    (discarded : StaleDiscarded log) (s' : Station) (effects : List Effect)
    (follows : s'.scanner.running = true → ∃ r queue,
      Follows latencyMs timeoutMs Q s' r queue (outstanding log ++ armedBy effects)) :
    Watched latencyMs timeoutMs Q
      (Station.elapse clock s'.feedRadio.load s'.feedRadio.time s'.feedRadio).1
      (log ++ .acted effects ::
        (Station.elapse clock s'.feedRadio.load s'.feedRadio.time s'.feedRadio).2) := by
  have fed : Watched latencyMs timeoutMs Q s'.feedRadio (log ++ [.acted effects]) := by
    refine ⟨discarded.concat (fun _ ended => by cases ended), ?_⟩
    intro running
    obtain ⟨r, queue, follows⟩ := follows ((feedRadio_frame s').2.symm.trans running)
    rw [outstanding_concat]
    exact ⟨_, follows.feedRadio regime, fed_fedRadio ..⟩
  have rest := (fed.elapse clock regime s'.feedRadio.time).1
  rwa [List.append_assoc] at rest

/-- Commands are served. -/
theorem call (regime : Regime (Wait.length latencyMs) (Wait.length timeoutMs) Q)
    (watched : Watched latencyMs timeoutMs Q s log) (cs : List Command)
    (callers : ∀ command ∈ cs, command.isCallers = true) :
    let deed := Deed.call cs callers
    Watched latencyMs timeoutMs Q (s.act clock deed).1 (log ++ (s.act clock deed).2) := by
  apply settle clock regime watched.1
    { s with scanner := (s.scanner.call s.time (clock s.time) cs).1 }
    (s.scanner.call s.time (clock s.time) cs).2.1
  intro running
  cases before : s.scanner.running with
  | false =>
    -- A scanner that has stopped does not run again.
    simp [Scanner.call, before] at running
  | true =>
    obtain ⟨r, follows, -⟩ := watched.2 before
    have served : s.scanner.call s.time (clock s.time) cs =
      s.scanner.serveAll s.time (clock s.time) cs := if_pos before
    rw [served] at running ⊢
    exact ⟨r, Follows.serveAll regime (clock s.time) cs callers (fun _ => ⟨[], follows⟩) running⟩

/-- What the driver answers is changed, which the radio does not learn of. -/
theorem change (watched : Watched latencyMs timeoutMs Q s log) (change : VirtualDriver.Change) :
    Watched latencyMs timeoutMs Q (s.act clock (.change change)).1
      (log ++ (s.act clock (.change change)).2) := by
  obtain ⟨discarded, known⟩ := watched
  simp only [Station.act, List.append_nil]
  refine ⟨discarded, ?_⟩
  intro running
  obtain ⟨r, ⟨sound, tickets, holds⟩, fed⟩ := known running
  have kept : (change.apply s.driver).subscriber = s.driver.subscriber ∧
      (change.apply s.driver).interface = s.driver.interface := by
    cases change <;> exact ⟨rfl, rfl⟩
  exact ⟨r, ⟨⟨⟨sound.scanner.tagged, sound.scanner.timed⟩, sound.running, sound.timeout,
    kept.1.trans sound.subscriber, sound.radio, sound.alive, sound.latency,
    sound.interface.trans kept.2.symm⟩, tickets, holds⟩, fed⟩

/-- Time passes. -/
theorem sleep (regime : Regime (Wait.length latencyMs) (Wait.length timeoutMs) Q)
    (watched : Watched latencyMs timeoutMs Q s log) (ms : UInt64) :
    Watched latencyMs timeoutMs Q (s.act clock (.sleep ms)).1
      (log ++ (s.act clock (.sleep ms)).2) := by
  obtain ⟨⟨discarded, known⟩, done⟩ := elapse clock regime watched (Wait.finish s.time ms)
  refine ⟨discarded, ?_⟩
  intro running
  obtain ⟨r, follows, fed⟩ := known running
  have sound := follows.sound
  refine ⟨r, ⟨sound.move _ _, follows.tickets, ?_⟩, fed⟩
  -- The time goes on to the end of the sleep, when all that was due has happened.
  apply regime.passed _ _ follows.holds (follows.scans_of_fed fed)
    (elapse_time_le clock _ (Nat.le_add_right ..))
  intro b busy
  obtain ⟨due, next, early⟩ := nextDue?_of_serving (sound.serving_eq.trans busy)
  exact Nat.lt_of_lt_of_le (done running due next) early

/-- The caller gives up its handle. -/
theorem detach (regime : Regime (Wait.length latencyMs) (Wait.length timeoutMs) Q)
    (watched : Watched latencyMs timeoutMs Q s log) :
    Watched latencyMs timeoutMs Q (s.act clock .detach).1 (log ++ (s.act clock .detach).2) := by
  obtain ⟨discarded, known⟩ := watched
  simp only [Station.act]
  split
  · -- The radio holds a handle of its own.
    rw [List.append_nil]
    refine ⟨discarded, ?_⟩
    intro running
    obtain ⟨r, ⟨sound, tickets, holds⟩, fed⟩ := known running
    exact ⟨r, ⟨sound.move s.time false, tickets, holds⟩, fed⟩
  · -- Nobody holds the scanner any more, and it stops.
    apply settle clock regime discarded
      { s with attached := false, scanner := s.scanner.stop.1 } s.scanner.stop.2
    intro running
    cases s.scanner.stop_running.symm.trans running

/-- Whatever is done to a station, what is known is kept. -/
theorem act (regime : Regime (Wait.length latencyMs) (Wait.length timeoutMs) Q)
    (watched : Watched latencyMs timeoutMs Q s log) (deed : Deed) :
    Watched latencyMs timeoutMs Q (s.act clock deed).1 (log ++ (s.act clock deed).2) := by
  cases deed with
  | call cs callers => exact watched.call clock regime cs callers
  | change change => exact watched.change clock change
  | sleep ms => exact watched.sleep clock regime ms
  | detach => exact watched.detach clock regime

end Watched

theorem watched_initial (regime : Regime (Wait.length latencyMs) (Wait.length timeoutMs) Q)
    (config : EngineConfig) (driver : VirtualDriver) (radio : RadioConfig)
    (timeout : config.scanTimeoutMs = timeoutMs) (latency : radio.latencyMs = latencyMs)
    (interface : radio.interface = driver.interface) :
    Watched latencyMs timeoutMs Q (initial config driver (some radio)) [] :=
  ⟨staleDiscarded_nil, fun _ => ⟨.initial radio,
    ⟨⟨Scanner.sound_initial config _, rfl, timeout, rfl, rfl, rfl, latency, interface⟩, rfl,
      regime.initial⟩, rfl, fun _ => rfl⟩⟩

theorem Watched.history (clock : Nat → UInt64)
    (regime : Regime (Wait.length latencyMs) (Wait.length timeoutMs) Q) (deeds : List Deed)
    {log : List Incident} (watched : Watched latencyMs timeoutMs Q s log) :
    Watched latencyMs timeoutMs Q (s.history clock deeds).1 (log ++ (s.history clock deeds).2) := by
  induction deeds generalizing s log with
  | nil => simpa only [Station.history, List.append_nil] using watched
  | cons deed deeds ih =>
    have rest := ih (watched.act clock regime deed)
    rwa [List.append_assoc] at rest

end Station

/-- Under a regime, every report of the radio ends the very request that it is about or is
discarded, whatever is done to the station. -/
theorem Regime.staleDiscarded [Wait] {latencyMs timeoutMs : UInt64} {Q : Moment → Prop}
    (regime : Regime (Wait.length latencyMs) (Wait.length timeoutMs) Q) (config : EngineConfig)
    (driver : VirtualDriver) (radio : RadioConfig) (timeout : config.scanTimeoutMs = timeoutMs)
    (latency : radio.latencyMs = latencyMs) (interface : radio.interface = driver.interface)
    (clock : Nat → UInt64) (deeds : List Deed) :
    StaleDiscarded ((Station.initial config driver (some radio)).history clock deeds).2 :=
  ((Station.watched_initial regime config driver radio timeout latency interface).history clock
    regime deeds).1

end WifiScan

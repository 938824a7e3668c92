import WifiScan.Proofs.Scanner.Timeline

/-!
# Serving commands in virtual time

A command that a scanner serves is an operation of its engine, the effects of which go to the tasks
and into the log (`Timeline.Handled`). For each class it does nothing, or takes a request and spawns
its task, or leaves neither a request nor a task (`Handled.class_cases`), so that what holds of a
timeline at every moment holds after it (`Handled.sound`).
-/
namespace WifiScan

variable {σ : Type} {wait : UInt64 → Nat} {config : EngineConfig}

namespace TimerTasks

theorem foldl_heldAfter_none {effects : List Effect} (unarmed : armedBy effects = [])
    (wait : UInt64 → Nat) (now : Nat) :
    effects.foldl (heldAfter wait now) none = none := by
  induction effects with
  | nil => rfl
  | cons effect effects ih =>
    cases effect with
    | arm tag delayMs => cases unarmed
    | _ => exact ih unarmed

/-- Effects do not wake a task. -/
theorem of_foldl_sending {wait : UInt64 → Nat} {now : Nat} {effects : List Effect}
    {held : Option TimerTask} {task : TimerTask}
    (after : effects.foldl (heldAfter wait now) held = some task)
    (sending : task.phase = .sending) : held = some task := by
  induction effects generalizing held with
  | nil => exact after
  | cons effect effects ih =>
    have before := ih after
    cases effect with
    | arm tag delayMs =>
      cases before
      cases sending
    | disarm c => cases before
    | _ => exact before

end TimerTasks

namespace Engine

/-- A step of a class does nothing, or takes a request and spawns its task, or leaves neither a
request nor a task. -/
theorem LaneStep.task_cases {e : Engine σ} {now : UInt64} {c : ScanClass}
    {admitted : Option Handler} {fx : List Effect} {lane : Lane}
    (step : e.LaneStep now c admitted fx lane) {held : Option TimerTask}
    (idle : e.inFlight? c = none → held = none) (wait : UInt64 → Nat) (time : Nat) :
    (fx = [] ∧ lane = e.lanes.get c) ∨
    (∃ r, admitted.isSome ∧ fx ≠ [] ∧ lane.inFlight = some r ∧ r.tag ∈ armedBy fx ∧
      r.scanClass = c ∧ lane.epoch = (e.lanes.get c).epoch + 1 ∧
      fx.foldl (TimerTasks.heldAfter wait time) held =
        some ⟨r.tag, time + wait e.config.scanTimeoutMs, .asleep⟩) ∨
    (fx ≠ [] ∧ lane.inFlight = none ∧ fx.foldl (TimerTasks.heldAfter wait time) held = none ∧
      (lane.epoch = (e.lanes.get c).epoch ∨ lane.epoch = (e.lanes.get c).epoch + 1)) := by
  cases step with
  | rest => exact Or.inl ⟨rfl, rfl⟩
  | @accepted s h r free sound made =>
    refine Or.inr (Or.inl
      ⟨r, rfl, List.cons_ne_nil _ _, rfl, List.mem_singleton.2 rfl, ?_, ?_, rfl⟩)
    · rw [← made]
      rfl
    · rw [← made]
      rfl
  | @refused s h r free sound made =>
    refine Or.inr (Or.inr ⟨List.cons_ne_nil _ _, free, idle free, Or.inr ?_⟩)
    rw [← made]
    rfl
  | failed flight => exact Or.inr (Or.inr ⟨List.cons_ne_nil _ _, rfl, rfl, Or.inl rfl⟩)
  | @completed r raw discovered data flight retained ranked =>
    -- The task is given up first, and no other is spawned.
    have unarmed : armedBy ([.fetch c raw] ++ fullReports r discovered ++
        [.store c data, .finish r.tag r.handler .completed]) = [] := by
      rw [armedBy_append, armedBy_append, armedBy, armedBy,
        filterMap_fullReports _ (fun _ _ _ _ => rfl) r discovered]
      rfl
    exact Or.inr (Or.inr ⟨List.cons_ne_nil _ _, rfl,
      TimerTasks.foldl_heldAfter_none unarmed wait time, Or.inl rfl⟩)

theorem eq_of_finish_mem_fail {e : Engine σ} {c : ScanClass} {reason : FailureReason}
    {tag : TimerTag} {h : Handler} {ending : Ending}
    (member : .finish tag h ending ∈ (e.fail c reason).2) :
    ∃ r, e.inFlight? c = some r ∧ tag = r.tag ∧ ending = .failed reason := by
  unfold fail at member
  dsimp only at member
  split at member
  · cases member
  next r flight =>
    simp only [List.mem_cons, List.not_mem_nil, reduceCtorEq, or_false, false_or,
      Effect.finish.injEq] at member
    exact ⟨r, flight, member.1, member.2.2⟩

section Driver

variable [ScanDriver σ]

/-- A request that an operation ends by its timeout is the one that the operation's timer is of. -/
theorem Performs.of_timedOut {e : Engine σ} {t : Turn σ} {out : Engine σ × Outcome}
    (performs : e.Performs t out) (tagged : e.Tagged) (going : t.operation ≠ .failAll .timedOut)
    {tag : TimerTag} {h : Handler}
    (member : .finish tag h (.failed .timedOut) ∈ out.2.effects) :
    t.operation = .timeout tag ∧ ∃ r, e.inFlight? tag.scanClass = some r ∧ r.tag = tag := by
  cases performs with
  | refused operation | unheard operation | late operation | scripted operation => cases member
  | launched operation sound idle made =>
    -- The driver may refuse the request, which ends it otherwise.
    simp only [launch] at member
    split at member <;> simp at member
  | completed reported =>
    rw [complete_effects reported.flight] at member
    simp only [List.mem_append, List.mem_cons, List.not_mem_nil, reduceCtorEq, or_false, false_or,
      Effect.finish.injEq, and_false] at member
    obtain ⟨result, bucket, report⟩ := eq_report_of_mem_fullReports member
    cases report
  | failed operation flight =>
    obtain ⟨r, -, -, other⟩ := eq_of_finish_mem_fail member
    cases other
  | @timedOut own r operation flight epoch =>
    obtain ⟨r', flight', rfl, -⟩ := eq_of_finish_mem_fail member
    cases flight.symm.trans flight'
    have same : r.tag = own := by
      rw [Request.tag, tagged _ r flight, epoch]
    refine ⟨same ▸ operation, r, ?_, rfl⟩
    rw [same]
    exact flight
  | @stopped reason operation =>
    rw [failAll_eq] at member
    have reasons : Ending.failed .timedOut = .failed reason := by
      rcases List.mem_append.1 member with single | background
      · obtain ⟨_, -, -, same⟩ := eq_of_finish_mem_fail single
        exact same
      · obtain ⟨_, -, -, same⟩ := eq_of_finish_mem_fail background
        exact same
    cases reasons
    exact absurd operation going

theorem inFlight?_timeout {e : Engine σ} {r : Request} (flight : e.inFlight? r.scanClass = some r)
    (now : UInt64) : (e.perform ⟨now, .timeout r.tag⟩).1.inFlight? r.scanClass = none := by
  have current : (e.inFlight? r.tag.scanClass).any (·.epoch = r.tag.epoch) = true := by
    rw [Request.tag, flight, Option.any_some, decide_eq_true rfl]
  have at? : (e.lanes.get r.scanClass).inFlight = some r := flight
  simp only [perform, onTimeout, if_pos current]
  simp only [Request.tag, fail, at?, inFlight?, PerClass.get_set_self]

end Driver

end Engine

section Driver

variable [ScanDriver σ] [Wait]

/-- A start that admits a request is answered without an error. -/
theorem Scanner.serve_admitted {s : Scanner σ} (running : s.running = true) {time : Nat}
    {now : UInt64} {command : Command} {c : ScanClass}
    (admits : ((command.turn now : Turn σ).admitted?
      (s.engine.perform (command.turn now)).2 c).isSome) :
    (∃ settings handler, command = .start c settings handler) ∧
      (s.serve time now command).2.2 = .ok .done := by
  rw [Engine.admitted?_isSome_iff] at admits
  obtain ⟨settings, handler, operation, answer⟩ := admits
  -- No other command is a start.
  cases command with
  | start d settings' handler' =>
    cases operation
    refine ⟨⟨settings, handler, rfl⟩, ?_⟩
    simp only [Command.turn, Delivery.turn, if_true, Engine.perform] at answer
    simp only [serve, running, if_true]
    cases started : s.engine.start now c settings handler with
    | error error =>
      rw [started] at answer
      cases answer
    | ok out => rfl
  | driverEvent event => cases operation
  | timerFired tag => cases operation
  | latest d => cases operation
  | scanning d => cases operation
  | shutdown => cases operation

/-- Serving a command carries out what its effects say about the timers, or leaves none. -/
theorem Scanner.serve_timers {s : Scanner σ} (running : s.running = true) (time : Nat)
    (now : UInt64) (command : Command) :
    (s.serve time now command).1.timers =
      if (s.serve time now command).1.running then
        (s.serve time now command).2.1.foldl (Timers.apply time) s.timers
      else .idle := by
  cases command with
  | start c settings handler =>
    simp only [serve, running, if_true]
    cases s.engine.start now c settings handler with
    | error error => exact (if_pos running).symm
    | ok out => exact (if_pos running).symm
  | shutdown => simp only [serve, stop, running, if_true, Bool.false_eq_true, if_false]
  | latest _ | scanning _ => simp only [serve, running, if_true, List.foldl_nil]
  | driverEvent _ | timerFired _ =>
    simp only [serve, running, if_true]
    exact (if_pos running).symm

namespace Timeline

variable {tl : Timeline σ}

/-! ### Serving a command -/

/-- What serving a command leaves: an operation of the engine, with its effects in the log and
carried out on the tasks. -/
structure Handled (wait : UInt64 → Nat) (tl : Timeline σ) (now : UInt64) (command : Command)
    (tl' : Timeline σ) : Prop where
  engine : tl'.scanner.engine = (tl.scanner.engine.perform (command.turn now)).1
  log : tl'.log = tl.log ++ [⟨tl.time, command, (tl.scanner.serve tl.time now command).2.2,
    (tl.scanner.engine.perform (command.turn now)).2.effects⟩]
  time : tl'.time = tl.time
  depth : tl'.depth = tl.depth
  attached : tl'.attached = tl.attached
  queue : tl'.queue = tl.queue.tail
  tasks : tl'.tasks.Sound
  released : tl'.scanner.running = false → ∀ c, tl'.tasks.held.get c = none
  going : tl'.scanner.running = true → ∀ c, tl'.tasks.held.get c =
    ((tl.scanner.engine.perform (command.turn now)).2.forClass c).effects.foldl
      (TimerTasks.heldAfter wait tl.time) (tl.tasks.held.get c)

theorem handle_handled (sound : tl.Sound wait config) (running : tl.scanner.running = true)
    (now : UInt64) (command : Command) {queue : List Command} (next : queue = tl.queue.tail) :
    Handled wait tl now command ({ tl with queue }.handle wait now command) := by
  have performs := tl.scanner.receive_eq_perform (.command tl.time now command)
  rw [running] at performs
  obtain ⟨engine, effects⟩ := performs
  have effects' : (tl.scanner.serve tl.time now command).2.1 =
    (tl.scanner.engine.perform (command.turn now)).2.effects := effects
  have tasks := sound.tasks.foldl wait tl.time (tl.scanner.serve tl.time now command).2.1
  refine ⟨engine, ?_, rfl, rfl, rfl, next, ?_, fun halted c => ?_, fun going c => ?_⟩
  · rw [← effects']
    rfl
  · simp only [handle]
    split
    · exact tasks
    · exact tasks.drop
  · have stopped : (tl.scanner.serve tl.time now command).1.running = false := halted
    simp only [handle, stopped, Bool.false_eq_true, if_false]
    exact TimerTasks.held_drop _ c
  · have still : (tl.scanner.serve tl.time now command).1.running = true := going
    simp only [handle, still, if_true]
    rw [TimerTasks.held_foldl, effects']
    rfl

namespace Handled

variable {tl' : Timeline σ} {now : UInt64} {command : Command}

theorem class_cases (handled : Handled wait tl now command tl') (sound : tl.Sound wait config)
    (running : tl.scanner.running = true) (going : tl'.scanner.running = true) (c : ScanClass) :
    (lastFor c tl'.log = lastFor c tl.log ∧
      tl'.scanner.engine.lanes.get c = tl.scanner.engine.lanes.get c ∧
      tl'.tasks.held.get c = tl.tasks.held.get c) ∨
    (∃ r start, tl'.scanner.engine.inFlight? c = some r ∧ lastFor c tl'.log = some start ∧
      start.Admits r.tag ∧ start.time = tl.time ∧
      (tl'.scanner.engine.lanes.get c).epoch = (tl.scanner.engine.lanes.get c).epoch + 1 ∧
      tl'.tasks.held.get c =
        some ⟨r.tag, start.time + wait tl.scanner.engine.config.scanTimeoutMs, .asleep⟩) ∨
    (tl'.scanner.engine.inFlight? c = none ∧ tl'.tasks.held.get c = none ∧
      ((tl'.scanner.engine.lanes.get c).epoch = (tl.scanner.engine.lanes.get c).epoch ∨
        (tl'.scanner.engine.lanes.get c).epoch =
          (tl.scanner.engine.lanes.get c).epoch + 1)) := by
  have step := Engine.perform_lane sound.tagged (command.turn now) c
  rw [handled.going going c, handled.log, lastFor_concat, handled.engine]
  rcases step.task_cases (sound.clocked running c).idle wait tl.time with
    ⟨quiet, lane⟩ | ⟨r, admits, -, flight, armed, own, epoch, spawned⟩ |
      ⟨-, idle, given, epoch⟩
  · -- Nothing was done for the class.
    refine Or.inl ⟨if_neg ?_, lane, by rw [quiet]; rfl⟩
    have none := List.filter_eq_nil_iff.1 quiet
    simpa only [LogEntry.concerns, List.any_eq_true, not_exists, not_and] using none
  · -- A request was taken.
    obtain ⟨start, answer⟩ := tl.scanner.serve_admitted running admits
    have armed' := (List.filter_sublist.filterMap _).subset armed
    refine Or.inr (Or.inl ⟨r, _, flight, if_pos ?_, ⟨?_, answer, armed'⟩, rfl, epoch, spawned⟩)
    · obtain ⟨effect, member, same⟩ := List.mem_filterMap.1 armed
      exact List.any_eq_true.2 ⟨effect, (List.mem_filter.1 member).1, (List.mem_filter.1 member).2⟩
    · rw [Request.tag, own]
      exact start
  · exact Or.inr (Or.inr ⟨idle, given, epoch⟩)

theorem config_eq (handled : Handled wait tl now command tl') :
    tl'.scanner.engine.config = tl.scanner.engine.config := by
  rw [handled.engine]
  exact Engine.perform_config ..

/-- A closed queue stays closed: to serve a command wakes no task. -/
theorem closed (handled : Handled wait tl now command tl') (going : tl'.scanner.running = true)
    (closed : tl.Closed) : tl'.Closed := by
  refine ⟨handled.attached.trans closed.1, fun c task held sending => ?_⟩
  rw [handled.going going c] at held
  exact closed.2 c task (TimerTasks.of_foldl_sending held sending) sending

/-- To serve the tag of a request in flight ends the request. -/
theorem timer_ends {r : Request} (handled : Handled wait tl now (.timerFired r.tag) tl')
    {c : ScanClass} (flight : tl.scanner.engine.inFlight? c = some r) (own : r.scanClass = c) :
    tl'.scanner.engine.inFlight? c = none := by
  subst own
  rw [handled.engine]
  exact Engine.inFlight?_timeout flight now

theorem clocked (handled : Handled wait tl now command tl') (sound : tl.Sound wait config)
    (running : tl.scanner.running = true) (going : tl'.scanner.running = true)
    (next : ∀ first ∈ tl.queue.head?, first = command) (c : ScanClass) : Clocked wait tl' c := by
  have before := sound.clocked running c
  rcases handled.class_cases sound running going c with ⟨last, lane, held⟩ |
    ⟨r, start, flight, last, admits, time, -, held⟩ | ⟨idle, held, -⟩
  · -- The class is as it was, but for the command that was served.
    have inFlight : tl'.scanner.engine.inFlight? c = tl.scanner.engine.inFlight? c :=
      congrArg Lane.inFlight lane
    refine ⟨fun idle => ?_, fun r flight => ?_⟩
    · rw [held]
      exact before.idle (inFlight.symm.trans idle)
    obtain ⟨start, task, timed⟩ := before.timed r (inFlight.symm.trans flight)
    refine ⟨start, task, last.trans timed.last, timed.admits, held.trans timed.held, timed.tag, ?_,
      ?_, ?_, ?_, fun ended => ?_⟩
    · rw [handled.config_eq]
      exact timed.deadline
    · rw [handled.time]
      exact timed.started
    · rw [handled.time]
      exact timed.asleep
    · rw [handled.time]
      exact timed.awake
    · rcases timed.ended ended with waits | closed
      · left
        rw [handled.queue]
        cases queue : tl.queue with
        | nil =>
          rw [queue] at waits
          cases waits
        | cons first rest =>
          rw [queue] at waits next
          rcases List.mem_cons.1 waits with same | later
          · -- It was the request's own tag, which ends the request.
            have served : command = .timerFired r.tag := (next first rfl).symm.trans same.symm
            subst served
            have old := inFlight.symm.trans flight
            have finished := handled.timer_ends old (sound.consistent c r old).scanClass
            cases finished.symm.trans flight
          · exact later
      · exact Or.inr (handled.closed going closed)
  · refine ⟨fun idle => ?_, fun r' flight' => ?_⟩
    · cases idle.symm.trans flight
    · cases flight.symm.trans flight'
      refine ⟨start, _, last, admits, held, rfl, ?_, ?_, ?_, ?_, ?_⟩
      · rw [handled.config_eq]
      · exact Nat.le_of_eq (time.trans handled.time.symm)
      · intro _
        rw [handled.time, ← time]
        exact Nat.le_add_right ..
      · exact fun awake => absurd rfl awake
      · intro ended
        cases ended
  · exact ⟨fun _ => held, fun r flight => by cases idle.symm.trans flight⟩

theorem recent (handled : Handled wait tl now command tl') (sound : tl.Sound wait config)
    (running : tl.scanner.running = true) (going : tl'.scanner.running = true) {i : Nat}
    {tag : TimerTag} (waits : tl'.queue[i]? = some (.timerFired tag)) : tl'.Recent i tag := by
  rw [handled.queue, List.getElem?_tail] at waits
  obtain ⟨position, sent⟩ := sound.recent running (i + 1) tag waits
  have bound := tl.depth.toNat_lt
  -- Everything has moved up in the queue, and at most one request was admitted.
  have younger (epoch : (tl'.scanner.engine.lanes.get tag.scanClass).epoch =
      (tl.scanner.engine.lanes.get tag.scanClass).epoch + 1) :
      (tl'.age tag).toNat = (tl.age tag).toNat + 1 := by
    have next : tl'.age tag = tl.age tag + 1 := by
      rw [age, age, epoch]
      grind
    rw [next, UInt64.toNat_add, UInt64.toNat_one, Nat.mod_eq_of_lt (by omega)]
  have same (epoch : (tl'.scanner.engine.lanes.get tag.scanClass).epoch =
      (tl.scanner.engine.lanes.get tag.scanClass).epoch) : tl'.age tag = tl.age tag := by
    rw [age, age, epoch]
  rcases handled.class_cases sound running going tag.scanClass with ⟨-, lane, held⟩ |
    ⟨r, start, -, -, -, -, epoch, -⟩ | ⟨idle, -, epoch⟩
  · have age := same (congrArg Lane.epoch lane)
    refine ⟨?_, fun zero task scanning held' => ?_⟩
    · rw [age, handled.depth]
      omega
    · have inFlight : tl'.scanner.engine.isScanning tag.scanClass =
          tl.scanner.engine.isScanning tag.scanClass :=
        congrArg (fun lane => lane.inFlight.isSome) lane
      exact sent (age.symm.trans zero) task (inFlight ▸ scanning) (held.symm.trans held')
  · have age := younger epoch
    refine ⟨?_, fun zero => ?_⟩
    · rw [age, handled.depth]
      omega
    · rw [zero] at age
      cases age
  · refine ⟨?_, fun _ task scanning => ?_⟩
    · rw [handled.depth]
      rcases epoch with old | new
      · rw [same old]
        omega
      · rw [younger new]
        omega
    · rw [Engine.isScanning, idle] at scanning
      cases scanning

/-- A request that is ended by its timeout is ended when its timer has fired. -/
theorem punctual (handled : Handled wait tl now command tl') (sound : tl.Sound wait config)
    (running : tl.scanner.running = true) (next : tl.queue = [] ∧ command = .shutdown ∨
      ∃ rest, tl.queue = command :: rest) :
    Punctual (wait config.scanTimeoutMs) tl'.log := by
  intro k entry tag handler at? ended
  rw [handled.log] at at? ⊢
  rcases getElem?_concat_cases at? with old | ⟨rfl, rfl⟩
  · have within := (List.getElem?_eq_some_iff.1 old).1
    rw [List.take_append_of_le_length (Nat.le_of_lt within)]
    exact sound.punctual k entry tag handler old ended
  · rw [List.take_left]
    have going : (command.turn now : Turn σ).operation ≠ .failAll .timedOut := by
      intro stopped
      cases command <;> cases stopped
    -- Only the tag of the request itself ends it by its timeout.
    obtain ⟨operation, r, flight, own⟩ :=
      (tl.scanner.engine.perform_performs _).of_timedOut sound.tagged going ended
    have served : command = .timerFired tag := by
      cases command <;> cases operation
      rfl
    subst served own
    rcases next with ⟨-, other⟩ | ⟨rest, queue⟩
    · cases other
    have waits : tl.queue[0]? = some (.timerFired r.tag) := by
      rw [queue]
      rfl
    obtain ⟨start, task, timed⟩ := (sound.clocked running _).timed r flight
    have scanning : tl.scanner.engine.isScanning r.tag.scanClass = true := by
      rw [Engine.isScanning, flight]
      rfl
    -- The tag waits in the queue because the task has sent it, and that was at its deadline.
    have fired := (sound.recent running 0 r.tag waits).sent (sound.age_eq_zero flight) task
      scanning timed.held
    refine ⟨start, timed.last, timed.admits, ?_⟩
    rw [timed.awake (by rw [fired]; decide), timed.deadline, sound.configured]

theorem sound (handled : Handled wait tl now command tl') (sound : tl.Sound wait config)
    (running : tl.scanner.running = true) (next : tl.queue = [] ∧ command = .shutdown ∨
      ∃ rest, tl.queue = command :: rest) : tl'.Sound wait config where
  configured := handled.config_eq.trans sound.configured
  tasks := handled.tasks
  consistent c r flight := by
    rw [handled.engine] at flight ⊢
    exact (Engine.perform_lane sound.tagged _ c).consistent (sound.consistent c) flight
  clocked going := by
    apply handled.clocked sound running going
    intro first member
    rcases next with ⟨queue, -⟩ | ⟨rest, queue⟩
    · rw [queue] at member
      cases member
    · rw [queue] at member
      exact (Option.some.inj member).symm
  recent going _ _ := handled.recent sound running going
  punctual := handled.punctual sound running next

end Handled

end Timeline

end Driver

end WifiScan

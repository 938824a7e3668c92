import WifiScan.Proofs.Scanner.Serving

/-!
# Lifetimes of requests

## Main result

`request_lifetimes`: whenever a running scanner has nothing left to do, a request in flight was
admitted less than the timeout ago, and the one timer of its class that can still fire is its own
and fires when the timeout is over. A class without a request has no such timer. A request that is
ended by its timeout is ended just then.

`mirrored_play`: the timers that the scanner keeps in its table are the tasks that sleep.

## Proof strategy

`Timeline.Sound` says at every moment where the timer of each request in flight is: asleep, or
sending, or its tag is in the queue. A tag in the queue is too recent for the numbers of requests to
have wrapped around since it was sent (`Recent`), so it is not taken for that of a later request.
-/
namespace WifiScan

variable {σ : Type} {wait : UInt64 → Nat} {config : EngineConfig}

namespace Timeline

variable {tl : Timeline σ}

/-- How long the requests of a scanner live, when requests time out after `timeout`. -/
structure Lifetimes (timeout : Nat) (tl : Timeline σ) : Prop where
  /-- When nothing is left to do, a request in flight was admitted less than the timeout ago, by the
  last thing that was done for its class. Its timer is the only one of the class that can still
  fire, and fires when the timeout is over. -/
  inFlight : tl.isQuiescent → tl.scanner.running → ∀ c r, tl.scanner.engine.inFlight? c = some r →
    ∃ start, lastFor c tl.log = some start ∧ start.Admits r.tag ∧
      start.time ≤ tl.time ∧ tl.time < start.time + timeout ∧
      tl.tasks.live c = [⟨r.tag, start.time + timeout, .asleep⟩]
  idle : tl.isQuiescent → tl.scanner.running → ∀ c, tl.scanner.engine.inFlight? c = none →
    tl.tasks.live c = []
  /-- A request that is ended by its timeout is ended when the timeout is over. -/
  punctual : Punctual timeout tl.log

theorem Sound.lifetimes (sound : tl.Sound wait config) :
    Lifetimes (wait config.scanTimeoutMs) tl := by
  refine ⟨fun quiet running c r flight => ?_, fun _ running c idle => ?_, sound.punctual⟩
  · obtain ⟨start, task, timed⟩ := (sound.clocked running c).timed r flight
    obtain ⟨asleep, early⟩ := sound.asleep_of_quiescent running quiet timed
    have deadline : task.deadline = start.time + wait config.scanTimeoutMs := by
      rw [timed.deadline, sound.configured]
    have itself : task = ⟨r.tag, start.time + wait config.scanTimeoutMs, .asleep⟩ := by
      rw [← timed.tag, ← deadline, ← asleep]
    refine ⟨start, timed.last, timed.admits, timed.started, deadline ▸ early, ?_⟩
    rw [sound.tasks.live_eq, timed.held, itself]
    rfl
  · rw [sound.tasks.live_eq, (sound.clocked running c).idle idle]
    rfl

/-- The timers that the scanner keeps are the tasks that sleep. -/
def Mirrored (tl : Timeline σ) : Prop := tl.tasks.table = tl.scanner.timers

section Driver

variable [ScanDriver σ] [Wait]

/-! ### Serving -/

namespace Sound

theorem serve (sound : tl.Sound wait config) (now : UInt64) :
    (tl.act wait (.serve now)).Sound wait config := by
  simp only [act]
  split
  next running =>
    split
    next command queue at? =>
      exact (handle_handled sound running now command (by rw [at?]; rfl)).sound sound running
        (Or.inr ⟨queue, at?⟩)
    next at? =>
      split
      · exact sound
      · have handled : Handled wait tl now .shutdown (tl.handle wait now .shutdown) :=
          handle_handled sound running now .shutdown (by rw [at?]; rfl)
        exact handled.sound sound running (Or.inl ⟨at?, rfl⟩)
  next => exact sound

/-! ### The other moves -/

theorem post (sound : tl.Sound wait config) (command : Command) :
    (tl.act wait (.post command)).Sound wait config := by
  simp only [act]
  split
  next possible =>
    simp only [Bool.and_eq_true, Bool.not_eq_true'] at possible
    refine ⟨sound.configured, sound.tasks, sound.consistent, fun running c => ?_,
      fun running i tag waits => ?_, sound.punctual⟩
    · refine ⟨(sound.clocked running c).idle, fun r flight => ?_⟩
      obtain ⟨start, task, timed⟩ := (sound.clocked running c).timed r flight
      exact ⟨start, task, { timed with
        ended := fun ended => (timed.ended ended).imp_left (List.mem_append_left _) }⟩
    · rcases getElem?_concat_cases waits with old | ⟨-, forged⟩
      · obtain ⟨position, sent⟩ := sound.recent running i tag old
        exact ⟨position, sent⟩
      · -- Callers do not post the tags of timers.
        rw [← forged] at possible
        cases possible.1.2
  next => exact sound

theorem detach (sound : tl.Sound wait config) : (tl.act wait .detach).Sound wait config := by
  refine ⟨sound.configured, sound.tasks, sound.consistent, fun running c => ?_,
    fun running i tag waits => ?_, sound.punctual⟩
  · refine ⟨(sound.clocked running c).idle, fun r flight => ?_⟩
    obtain ⟨start, task, timed⟩ := (sound.clocked running c).timed r flight
    exact ⟨start, task, { timed with
      ended := fun ended => (timed.ended ended).imp_right fun closed => ⟨rfl, closed.2⟩ }⟩
  · obtain ⟨position, sent⟩ := sound.recent running i tag waits
    exact ⟨position, sent⟩

theorem script (sound : tl.Sound wait config) (change : σ → σ) :
    (tl.act wait (.script change)).Sound wait config := by
  refine ⟨sound.configured, sound.tasks, sound.consistent, fun running c => ?_,
    fun running i tag waits => ?_, sound.punctual⟩
  · refine ⟨(sound.clocked running c).idle, fun r flight => ?_⟩
    obtain ⟨start, task, timed⟩ := (sound.clocked running c).timed r flight
    exact ⟨start, task, { timed with }⟩
  · obtain ⟨position, sent⟩ := sound.recent running i tag waits
    exact ⟨position, sent⟩

theorem wake (sound : tl.Sound wait config) (place : TaskPlace) :
    (tl.act wait (.wake place)).Sound wait config := by
  simp only [act]
  split
  next task at? =>
    split
    next due =>
      obtain ⟨asleep, due⟩ := due
      obtain ⟨c, rfl, held⟩ := sound.held_of_get? at? (by rw [asleep]; decide)
      have closing : tl.isOpen = false ↔ tl.Closed := sound.isOpen_eq_false_iff
      generalize phase_eq : (if tl.isOpen then TaskPhase.sending else .ended) = phase
      -- The task that wakes is no longer asleep, and has ended if the queue is closed.
      have awake : phase ≠ .asleep := by
        rw [← phase_eq]
        split <;> decide
      have ended : phase = .ended ↔ tl.Closed := by
        rw [← phase_eq, ← closing]
        cases tl.isOpen <;> decide
      have after := TimerTasks.held_setPhase held phase
      have closed : tl.Closed → ∀ d other,
          (tl.tasks.setPhase (.held c) phase).held.get d = some other →
            other.phase ≠ .sending := by
        intro closed d other held'
        rw [after] at held'
        split at held'
        · cases held'
          change phase ≠ .sending
          rw [ended.2 closed]
          decide
        · exact closed.2 d other held'
      refine ⟨sound.configured, sound.tasks.setPhase c phase, sound.consistent,
        fun running d => ⟨sound.idle_setPhase running held phase, fun r flight => ?_⟩,
        fun running i tag waits => ?_, sound.punctual⟩
      · obtain ⟨start, own, timed⟩ := (sound.clocked running d).timed r flight
        by_cases same : d = c
        · subst same
          cases timed.held.symm.trans held
          refine ⟨start, { task with phase }, timed.last, timed.admits,
            (after d).trans (if_pos rfl), timed.tag, timed.deadline, timed.started,
            fun other => absurd other awake, fun _ => ?_,
            fun finished => Or.inr ⟨(ended.1 finished).1, closed (ended.1 finished)⟩⟩
          exact Nat.le_antisymm (timed.asleep asleep) due
        · exact ⟨start, own, timed.last, timed.admits,
            ((after d).trans (if_neg same)).trans timed.held, timed.tag, timed.deadline,
            timed.started, timed.asleep, timed.awake,
            fun finished => (timed.ended finished).imp_right fun shut => ⟨shut.1, closed shut⟩⟩
      · obtain ⟨position, sent⟩ := sound.recent running i tag waits
        refine ⟨position, fun zero other scanning held' => ?_⟩
        rw [after] at held'
        split at held'
        next same =>
          -- A task that sleeps has not sent its tag.
          have finished := sent zero task scanning (same ▸ held)
          cases asleep.symm.trans finished
        next => exact sent zero other scanning held'
    next => exact sound
  next => exact sound

theorem send (sound : tl.Sound wait config) (place : TaskPlace) :
    (tl.act wait (.send place)).Sound wait config := by
  simp only [act]
  split
  next task at? =>
    split
    next possible =>
      obtain ⟨sending, room⟩ := possible
      obtain ⟨c, rfl, held⟩ := sound.held_of_get? at? (by rw [sending]; decide)
      have after := TimerTasks.held_setPhase held .ended
      refine ⟨sound.configured, sound.tasks.setPhase c .ended, sound.consistent,
        fun running d => ⟨sound.idle_setPhase running held .ended, fun r flight => ?_⟩,
        fun running i tag waits => ?_, sound.punctual⟩
      · obtain ⟨start, own, timed⟩ := (sound.clocked running d).timed r flight
        by_cases same : d = c
        · subst same
          cases timed.held.symm.trans held
          refine ⟨start, { task with phase := .ended }, timed.last, timed.admits,
            (after d).trans (if_pos rfl), timed.tag, timed.deadline, timed.started, ?_,
            fun _ => timed.awake (by rw [sending]; decide), fun _ => Or.inl ?_⟩
          · intro other
            cases other
          · rw [← timed.tag]
            exact List.mem_append_right _ (List.mem_singleton.2 rfl)
        · refine ⟨start, own, timed.last, timed.admits,
            ((after d).trans (if_neg same)).trans timed.held, timed.tag, timed.deadline,
            timed.started, timed.asleep, timed.awake, fun finished => Or.inl ?_⟩
          -- The task that sends has kept the queue open.
          rcases timed.ended finished with waits | shut
          · exact List.mem_append_left _ waits
          · exact absurd sending (shut.2 c task held)
      · rcases getElem?_concat_cases waits with old | ⟨last, new⟩
        · obtain ⟨position, sent⟩ := sound.recent running i tag old
          refine ⟨position, fun zero other scanning held' => ?_⟩
          rw [after] at held'
          split at held'
          · cases held'
            rfl
          · exact sent zero other scanning held'
        · -- The tag that is sent is that of the request in flight.
          obtain ⟨r, start, flight, timed⟩ := sound.exists_timed running held
          have own : tag = r.tag := (Command.timerFired.inj new).trans timed.tag
          subst own last
          refine ⟨?_, fun _ other _ held' => ?_⟩
          · have zero := sound.age_eq_zero flight
            have space : tl.queue.length < tl.depth.toNat := of_decide_eq_true room
            rw [age] at zero ⊢
            rw [zero]
            simpa using space
          · have class_eq : r.tag.scanClass = c := sound.tagged c r flight
            rw [after, if_pos class_eq] at held'
            cases held'
            rfl
    next => exact sound
  next => exact sound

theorem pass (sound : tl.Sound wait config) (time : Nat) :
    (tl.act wait (.pass time)).Sound wait config := by
  simp only [act]
  split
  next possible =>
    obtain ⟨quiet, later, sleeping⟩ := possible
    -- Time passes only while every task of a request sleeps and the queue is empty.
    refine ⟨sound.configured, sound.tasks, sound.consistent,
      fun running c => ⟨(sound.clocked running c).idle, fun r flight => ?_⟩,
      fun running i tag waits => ?_, sound.punctual⟩
    · obtain ⟨start, task, timed⟩ := (sound.clocked running c).timed r flight
      obtain ⟨asleep, -⟩ := sound.asleep_of_quiescent running quiet timed
      have member := (sound.tasks.mem_all_iff (by rw [asleep]; decide)).2 ⟨c, timed.held⟩
      refine ⟨start, task, timed.last, timed.admits, timed.held, timed.tag, timed.deadline,
        Nat.le_trans timed.started later, fun _ => sleeping task member asleep,
        fun awake => absurd asleep awake, fun finished => ?_⟩
      cases asleep.symm.trans finished
    · rw [(sound.of_quiescent running quiet).1] at waits
      cases waits
  next => exact sound

theorem act (sound : tl.Sound wait config) (move : Move σ) :
    (tl.act wait move).Sound wait config := by
  cases move with
  | post command => exact sound.post command
  | serve now => exact sound.serve now
  | wake place => exact sound.wake place
  | send place => exact sound.send place
  | pass time => exact sound.pass time
  | detach => exact sound.detach
  | script change => exact sound.script change

theorem play (sound : tl.Sound wait config) (moves : List (Move σ)) :
    (tl.play wait moves).Sound wait config := by
  induction moves generalizing tl with
  | nil => exact sound
  | cons move moves ih => exact ih (sound.act move)

end Sound

/-! ### The sleeping tasks are the timers of the scanner -/

theorem Mirrored.handle (mirrored : tl.Mirrored) (running : tl.scanner.running = true)
    (queue : List Command) (now : UInt64) (command : Command) :
    ({ tl with queue }.handle (Wait.finish 0) now command).Mirrored := by
  change TimerTasks.table (if (tl.scanner.serve tl.time now command).1.running then _ else _) =
    (tl.scanner.serve tl.time now command).1.timers
  rw [Scanner.serve_timers running, ← mirrored]
  split
  · exact TimerTasks.table_foldl ..
  · exact TimerTasks.table_drop _

theorem Mirrored.act (mirrored : tl.Mirrored) (sound : tl.Sound (Wait.finish 0) config)
    (move : Move σ) : (tl.act (Wait.finish 0) move).Mirrored := by
  cases move with
  | post command =>
    simp only [Timeline.act]
    split <;> exact mirrored
  | serve now =>
    simp only [Timeline.act]
    split
    next running =>
      split
      · exact mirrored.handle running _ now _
      · split
        · exact mirrored
        · exact mirrored.handle running tl.queue now .shutdown
    next => exact mirrored
  | wake place =>
    simp only [Timeline.act]
    split
    next task at? =>
      split
      next due =>
        obtain ⟨c, rfl, held⟩ := sound.held_of_get? at? (by rw [due.1]; decide)
        change TimerTasks.table (tl.tasks.setPhase _ _) =
          tl.scanner.timers.disarm task.tag.scanClass
        rw [TimerTasks.table_setPhase _ _ (by split <;> decide), mirrored,
          sound.tasks.held c task held]
      next => exact mirrored
    next => exact mirrored
  | send place =>
    simp only [Timeline.act]
    split
    next task at? =>
      split
      next possible =>
        obtain ⟨c, rfl, held⟩ := sound.held_of_get? at? (by rw [possible.1]; decide)
        -- A task that sends was no timer before.
        have spent : tl.tasks.table.get c = none := by
          rw [TimerTasks.table_get, held, Option.bind_some, TimerTask.timer?, possible.1]
          rfl
        change TimerTasks.table (tl.tasks.setPhase _ _) = tl.scanner.timers
        rw [TimerTasks.table_setPhase _ _ (by decide), Timers.disarm_eq_self _ spent, mirrored]
      next => exact mirrored
    next => exact mirrored
  | pass time =>
    simp only [Timeline.act]
    split <;> exact mirrored
  | detach => exact mirrored
  | script change => exact mirrored

/-- The timers of a scanner are the tasks that sleep, at every moment. -/
theorem mirrored_play (config : EngineConfig) (driver : σ) (depth : UInt64)
    (moves : List (Move σ)) :
    ((initial config driver depth).play (Wait.finish 0) moves).Mirrored := by
  have every (tl : Timeline σ) (sound : tl.Sound (Wait.finish 0) config) (mirrored : tl.Mirrored) :
      (tl.play (Wait.finish 0) moves).Mirrored := by
    induction moves generalizing tl with
    | nil => exact mirrored
    | cons move moves ih => exact ih _ (sound.act move) (mirrored.act sound move)
  exact every _ (sound_initial config driver depth) rfl

/-- Requests live until they end or their timeout is over, whatever commands are posted and whatever
the driver does, for timers that wake when their wait is over: after as long as was asked for
(`UInt64.toNat`), or after any other time that `wait` says. -/
theorem request_lifetimes (wait : UInt64 → Nat) (config : EngineConfig) (driver : σ)
    (depth : UInt64) (moves : List (Move σ)) :
    Lifetimes (wait config.scanTimeoutMs)
      ((Timeline.initial config driver depth).play wait moves) := by
  have sound : (Timeline.initial config driver depth).Sound wait config :=
    sound_initial config driver depth
  exact (sound.play moves).lifetimes

end Driver

/-- Time does not pass a deadline, and the request that is left alone ends at its own. -/
example :
    let settings := (ScanSettings.empty.withMaxApPerScan 4).addBucket
      ⟨30000, .afterEachScan, .band .ghz24⟩
    let tl := (initial .standard (VirtualDriver.initial .standard) 256).play UInt64.toNat
      [.post (.start .background (some settings) (some "b")), .serve 100, .pass 20000, .pass 14999,
        .pass 15000, .wake (.held .background), .send (.held .background), .serve 200]
    tl.scanner.engine.isScanning .background = false ∧ tl.isQuiescent = true ∧
      tl.log.map (·.time) = [0, 15000] := by
  decide

end Timeline

end WifiScan

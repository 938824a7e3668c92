import WifiScan.Proofs.Scanner.Lifetime

/-!
# Timelines at rest

A timeline rests while nothing waits to be sent or served and every task held is asleep (`Rests`).
From there it comes to rest again after each of the things that can happen to a scanner in virtual
time: time passes (`Rests.pass`), a command is posted and served (`Rests.serve`), a task wakes,
sends its tag and has it served (`Rests.fire`), or the scanner stops (`Rests.stop`).
-/
namespace WifiScan.Timeline

variable {config : EngineConfig}

theorem play_append [Wait] {σ : Type} [ScanDriver σ] (wait : UInt64 → Nat) (tl : Timeline σ)
    (moves more : List (Move σ)) :
    tl.play wait (moves ++ more) = (tl.play wait moves).play wait more := List.foldl_append

/-- A timeline at a time and with a scanner, where nothing waits to be sent or served. -/
structure Rests (tl : Timeline VirtualDriver) (time : Nat) (scanner : Scanner VirtualDriver) :
    Prop where
  time : tl.time = time
  scanner : tl.scanner = scanner
  queue : tl.queue = []
  room : 0 < tl.depth.toNat
  attached : tl.scanner.running = true → tl.attached = true
  unsent : ∀ c task, tl.tasks.held.get c = some task → task.phase ≠ .sending
  stopped : tl.scanner.running = false → ∀ c, tl.tasks.held.get c = none

theorem rests_initial (config : EngineConfig) (driver : VirtualDriver) {depth : UInt64}
    (room : 0 < depth.toNat) :
    (initial config driver depth).Rests 0 (.initial config driver) where
  time := rfl
  scanner := rfl
  queue := rfl
  room := room
  attached _ := rfl
  unsent c task held := by cases c <;> cases held
  stopped _ c := by cases c <;> rfl

theorem Rests.isOpen {tl : Timeline VirtualDriver} {time : Nat} {scanner : Scanner VirtualDriver}
    (rests : tl.Rests time scanner) (running : scanner.running = true) :
    tl.isOpen = true := by
  rw [Timeline.isOpen, rests.attached (rests.scanner ▸ running), Bool.true_or]

variable [Wait]

theorem rests_of_handled {tl tl' : Timeline VirtualDriver} {wait : UInt64 → Nat} {now : UInt64}
    {command : Command} (handled : Handled wait tl now command tl') (next : tl.queue.tail = [])
    (room : 0 < tl.depth.toNat) (attached : tl'.scanner.running = true → tl.attached = true)
    (unsent : ∀ c task, tl.tasks.held.get c = some task → task.phase ≠ .sending) :
    tl'.Rests tl.time tl'.scanner where
  time := handled.time
  scanner := rfl
  queue := handled.queue.trans next
  room := handled.depth ▸ room
  attached going := handled.attached.trans (attached going)
  unsent c task held sending := by
    cases going : tl'.scanner.running with
    | false => cases (handled.released going c).symm.trans held
    | true =>
      rw [handled.going going c] at held
      exact unsent c task (TimerTasks.of_foldl_sending held sending) sending
  stopped := handled.released

namespace Rests

variable {tl : Timeline VirtualDriver} {time : Nat} {scanner : Scanner VirtualDriver}

/-- Every task held is asleep. -/
theorem asleep (rests : tl.Rests time scanner) (sound : tl.Sound (Wait.finish 0) config)
    {c : ScanClass} {task : TimerTask} (held : tl.tasks.held.get c = some task) :
    task.phase = .asleep := by
  cases running : tl.scanner.running with
  | false => cases (rests.stopped running c).symm.trans held
  | true =>
    obtain ⟨r, start, flight, timed⟩ := sound.exists_timed running held
    cases phase : task.phase with
    | asleep => rfl
    | sending => exact absurd phase (rests.unsent c task held)
    | ended =>
      -- Its tag would wait in the queue, unless the queue were closed.
      rcases timed.ended phase with waits | closed
      · rw [rests.queue] at waits
        cases waits
      · cases closed.1.symm.trans (rests.attached running)

/-- The timers of the scanner are the tasks held. -/
theorem timer_iff (rests : tl.Rests time scanner) (sound : tl.Sound (Wait.finish 0) config)
    (mirrored : tl.Mirrored) {c : ScanClass} {a : ArmedTimer} :
    scanner.timers.get c = some a ↔
      tl.tasks.held.get c = some ⟨a.tag, a.deadline, .asleep⟩ := by
  rw [← rests.scanner, ← mirrored, TimerTasks.table_get]
  cases held : tl.tasks.held.get c with
  | none => simp
  | some task =>
    obtain ⟨tag, deadline, phase⟩ := task
    cases rests.asleep sound held
    obtain ⟨tag', deadline'⟩ := a
    simp [TimerTask.timer?]

/-- Nothing is left to do while no timer is due. -/
theorem isQuiescent (rests : tl.Rests time scanner) (sound : tl.Sound (Wait.finish 0) config)
    (mirrored : tl.Mirrored) (later : ∀ c a, scanner.timers.get c = some a → time < a.deadline) :
    tl.isQuiescent = true := by
  simp only [Timeline.isQuiescent, Bool.and_eq_true, Bool.or_eq_true, List.all_eq_true,
    decide_eq_true_eq, List.isEmpty_iff, Bool.not_eq_true']
  refine ⟨?_, fun task member => ?_⟩
  · cases running : tl.scanner.running with
    | false => exact Or.inl rfl
    | true => exact Or.inr ⟨rests.queue, rests.isOpen (rests.scanner ▸ running)⟩
  · by_cases finished : task.phase = .ended
    · exact Or.inl finished
    · obtain ⟨c, held⟩ := (sound.tasks.mem_all_iff finished).1 member
      have asleep := rests.asleep sound held
      have armed : scanner.timers.get c = some ⟨task.tag, task.deadline⟩ := by
        rw [rests.timer_iff sound mirrored, held, ← asleep]
      exact Or.inr ⟨asleep, rests.time ▸ later c _ armed⟩

/-! ### Moves -/

theorem script (rests : tl.Rests time scanner) (driver : VirtualDriver) :
    (tl.play (Wait.finish 0) [.script fun _ => driver]).Rests time
      { scanner with engine := { scanner.engine with driver } } := by
  obtain ⟨rfl, rfl, queue, room, attached, unsent, stopped⟩ := rests
  exact ⟨rfl, rfl, queue, room, attached, unsent, stopped⟩

/-- Time passes to no later than the first deadline. -/
theorem pass (rests : tl.Rests time scanner) (sound : tl.Sound (Wait.finish 0) config)
    (mirrored : tl.Mirrored) {limit : Nat} (before : time ≤ limit)
    (later : ∀ c a, scanner.timers.get c = some a → limit ≤ a.deadline) :
    ∃ moves, (tl.play (Wait.finish 0) moves).Rests limit scanner := by
  rcases Nat.eq_or_lt_of_le before with rfl | before
  · exact ⟨[], rests⟩
  · have quiet := rests.isQuiescent sound mirrored fun c a armed =>
      Nat.lt_of_lt_of_le before (later c a armed)
    have possible : tl.isQuiescent = true ∧ tl.time ≤ limit ∧
        ∀ task ∈ tl.tasks.all, task.phase = .asleep → limit ≤ task.deadline := by
      refine ⟨quiet, rests.time ▸ Nat.le_of_lt before, fun task member asleep => ?_⟩
      obtain ⟨c, held⟩ := (sound.tasks.mem_all_iff (by rw [asleep]; decide)).1 member
      refine later c ⟨task.tag, task.deadline⟩ ?_
      rw [rests.timer_iff sound mirrored, held, ← asleep]
    refine ⟨[.pass limit], ?_⟩
    change Rests (act (Wait.finish 0) tl (.pass limit)) limit scanner
    rw [act, if_pos possible]
    exact ⟨rfl, rests.scanner, rests.queue, rests.room, rests.attached, rests.unsent,
      rests.stopped⟩

/-- A command is posted and served. -/
theorem serve (rests : tl.Rests time scanner) (sound : tl.Sound (Wait.finish 0) config)
    (now : UInt64) {command : Command} (command_posted : command.isTimer = false) :
    ∃ moves, (tl.play (Wait.finish 0) moves).Rests time (scanner.serve time now command).1 := by
  obtain ⟨rfl, rfl, queue, room, attached, unsent, stopped⟩ := id rests
  by_cases running : tl.scanner.running = true
  · let posted : Timeline VirtualDriver := { tl with queue := [command] }
    have post : tl.act (Wait.finish 0) (.post command) = posted := by
      simp [act, attached running, running, command_posted, hasRoom, queue, room, posted]
    have served : posted.act (Wait.finish 0) (.serve now) =
        { posted with queue := [] }.handle (Wait.finish 0) now command := if_pos running
    have soundPosted : posted.Sound (Wait.finish 0) config := post ▸ sound.post command
    have handled : Handled (Wait.finish 0) posted now command
        ({ posted with queue := [] }.handle (Wait.finish 0) now command) :=
      handle_handled soundPosted running now command rfl
    have rested := rests_of_handled handled rfl room (fun _ => attached running) unsent
    refine ⟨[.post command, .serve now], ?_⟩
    change Rests (act _ (act _ tl (.post command)) (.serve now)) _ _
    rw [post, served]
    exact rested
  · refine ⟨[], ?_⟩
    simp only [Scanner.serve, running]
    exact rests

/-- A timer that is due sends its tag, which is served. -/
theorem fire (rests : tl.Rests time scanner) (sound : tl.Sound (Wait.finish 0) config)
    (mirrored : tl.Mirrored) (now : UInt64) {c : ScanClass} {a : ArmedTimer}
    (armed : scanner.timers.get c = some a) (due : a.deadline ≤ time) :
    ∃ moves, (tl.play (Wait.finish 0) moves).Rests time
      ({ scanner with timers := scanner.timers.disarm a.tag.scanClass }.serve time now
        (.timerFired a.tag)).1 := by
  have held := (rests.timer_iff sound mirrored).1 armed
  obtain ⟨rfl, rfl, queue, room, attached, unsent, stopped⟩ := id rests
  have running : tl.scanner.running = true := by
    by_contra halted
    cases (stopped (Bool.eq_false_iff.2 halted) c).symm.trans held
  let woken : Timeline VirtualDriver :=
    { tl with
      tasks := tl.tasks.setPhase (.held c) .sending
      scanner := { tl.scanner with timers := tl.scanner.timers.disarm a.tag.scanClass } }
  let sent : Timeline VirtualDriver :=
    { woken with
      tasks := woken.tasks.setPhase (.held c) .ended
      queue := [.timerFired a.tag] }
  have heldWoken := TimerTasks.held_setPhase held .sending
  have at? : woken.tasks.get? (.held c) = some ⟨a.tag, a.deadline, .sending⟩ :=
    (heldWoken c).trans (if_pos rfl)
  have heldSent := TimerTasks.held_setPhase at? .ended
  have wake : tl.act (Wait.finish 0) (.wake (.held c)) = woken := by
    simp only [act, TimerTasks.get?, held, due, and_self, if_true, rests.isOpen running]
    rfl
  have send : woken.act (Wait.finish 0) (.send (.held c)) = sent := by
    have space : woken.hasRoom = true := by simp [hasRoom, woken, queue, room]
    simp only [act, at?, space, and_self, if_true]
    simp [sent, woken, queue]
  have served : sent.act (Wait.finish 0) (.serve now) =
      { sent with queue := [] }.handle (Wait.finish 0) now (.timerFired a.tag) := if_pos running
  have soundSent : sent.Sound (Wait.finish 0) config :=
    send ▸ (wake ▸ sound.wake (.held c)).send (.held c)
  have handled : Handled (Wait.finish 0) sent now (.timerFired a.tag)
      ({ sent with queue := [] }.handle (Wait.finish 0) now (.timerFired a.tag)) :=
    handle_handled soundSent running now _ rfl
  -- The task has ended, and that of the other class is not sending.
  have unsent' (d : ScanClass) (task : TimerTask) (held' : sent.tasks.held.get d = some task) :
      task.phase ≠ .sending := by
    rw [heldSent] at held'
    split at held'
    · cases held'
      exact TaskPhase.noConfusion
    next other =>
      exact unsent d task (((heldWoken d).trans (if_neg other)).symm.trans held')
  have rested := rests_of_handled handled rfl room (fun _ => attached running) unsent'
  refine ⟨[.wake (.held c), .send (.held c), .serve now], ?_⟩
  change Rests (act _ (act _ (act _ tl (.wake (.held c))) (.send (.held c))) (.serve now)) _ _
  rw [wake, send, served]
  exact rested

/-- Nobody holds a handle any more, and the scanner stops. -/
theorem stop (rests : tl.Rests time scanner) (sound : tl.Sound (Wait.finish 0) config) :
    ∃ moves, (tl.play (Wait.finish 0) moves).Rests time scanner.stop.1 := by
  obtain ⟨rfl, rfl, queue, room, attached, unsent, stopped⟩ := id rests
  by_cases running : tl.scanner.running = true
  · -- With the last handle gone and no task sending, the queue is closed, and the scanner stops.
    let detached : Timeline VirtualDriver := { tl with attached := false }
    have soundDetached : detached.Sound (Wait.finish 0) config := sound.detach
    have closed : detached.isOpen = false := soundDetached.isOpen_eq_false_iff.2 ⟨rfl, unsent⟩
    have served : detached.act (Wait.finish 0) (.serve 0) =
        detached.handle (Wait.finish 0) 0 .shutdown := by
      have running : detached.scanner.running = true := running
      have queue : detached.queue = [] := queue
      simp only [act, running, if_true, queue, closed, Bool.false_eq_true, if_false]
    have handled : Handled (Wait.finish 0) detached 0 .shutdown
        (detached.handle (Wait.finish 0) 0 .shutdown) :=
      handle_handled soundDetached running 0 .shutdown (by rw [queue]; rfl)
    have same : (detached.handle (Wait.finish 0) 0 .shutdown).scanner = tl.scanner.stop.1 := by
      change (tl.scanner.serve tl.time 0 .shutdown).1 = _
      simp only [Scanner.serve, running, if_true]
    have halted := tl.scanner.stop_running
    rw [← same] at halted
    have rested := rests_of_handled handled (by rw [queue]; rfl) room
      (fun going => by cases halted.symm.trans going) unsent
    refine ⟨[.detach, .serve 0], ?_⟩
    change Rests (act _ detached (.serve 0)) _ _
    rw [served, ← same]
    exact rested
  · refine ⟨[], ?_⟩
    rw [Scanner.stop, if_neg running]
    exact rests

end Rests

end WifiScan.Timeline

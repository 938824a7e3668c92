import WifiScan.Proofs.Engine.RequestDiscipline
import WifiScan.Proofs.Scanner.Service
import WifiScan.Proofs.Scanner.TimerTasks

/-!
# Scanners in virtual time

A scanner with its queue and the tasks that its timers are. Whoever holds a handle posts commands,
the scanner serves them one at a time, tasks wake at their deadlines and send their tags, the driver
changes, all in any order. Time passes only when nothing is left to do at its moment, and it does
not pass the deadline of a sleeping task.
-/
namespace WifiScan

variable {σ : Type}

def Command.isTimer : Command → Bool
  | timerFired _ => true
  | _ => false

/-- The operation of the engine that a command is at a scanner that runs. -/
def Command.turn (now : UInt64) (command : Command) : Turn σ :=
  Delivery.turn true (.command 0 now command)

/-- A command that the scanner served. -/
structure LogEntry where
  time : Nat
  command : Command
  answer : Answer
  effects : List Effect

namespace LogEntry

/-- Whether something was done for a class. -/
def concerns (c : ScanClass) (entry : LogEntry) : Bool := entry.effects.any (·.scanClass = c)

/-- A start was answered without an error, and the timer of its request was armed. -/
structure Admits (entry : LogEntry) (tag : TimerTag) : Prop where
  command : ∃ settings handler, entry.command = .start tag.scanClass settings handler
  answer : entry.answer = .ok .done
  armed : tag ∈ armedBy entry.effects

end LogEntry

/-- The last time that something was done for a class. -/
def lastFor (c : ScanClass) (log : List LogEntry) : Option LogEntry :=
  (log.filter (·.concerns c)).getLast?

theorem lastFor_concat (c : ScanClass) (log : List LogEntry) (entry : LogEntry) :
    lastFor c (log ++ [entry]) = if entry.concerns c then some entry else lastFor c log := by
  rw [lastFor, List.filter_append]
  cases concerned : entry.concerns c with
  | true =>
    rw [List.filter_cons_of_pos concerned, List.filter_nil, List.getLast?_concat, if_pos rfl]
  | false =>
    rw [List.filter_cons_of_neg (by simp [concerned]), List.filter_nil, List.append_nil]
    rfl

structure Timeline (σ : Type) where
  time : Nat
  scanner : Scanner σ
  tasks : TimerTasks
  queue : List Command
  /-- How many commands the queue has room for. -/
  depth : UInt64
  /-- Whether somebody holds a handle on the scanner. -/
  attached : Bool
  log : List LogEntry

inductive Move (σ : Type) where
  | post (command : Command)
  /-- The scanner serves the next command while the clock reads `now`. -/
  | serve (now : UInt64)
  | wake (place : TaskPlace)
  | send (place : TaskPlace)
  | pass (time : Nat)
  /-- The last handle is given up. -/
  | detach
  | script (change : σ → σ)

namespace Timeline

def initial (config : EngineConfig) (driver : σ) (depth : UInt64) : Timeline σ :=
  ⟨0, .initial config driver, .idle, [], depth, true, []⟩

def hasRoom (tl : Timeline σ) : Bool := tl.queue.length < tl.depth.toNat

/-- Whether somebody can still send commands. Tasks keep the queue open only while they send. -/
def isOpen (tl : Timeline σ) : Bool := tl.attached || tl.tasks.all.any (·.phase = .sending)

/-- Whether nothing is left to do at this moment. -/
def isQuiescent (tl : Timeline σ) : Bool :=
  (!tl.scanner.running || tl.queue.isEmpty && tl.isOpen) &&
    tl.tasks.all.all fun task =>
      task.phase = .ended || task.phase = .asleep && tl.time < task.deadline

section Driver

variable [ScanDriver σ] [Wait]

/-- Serves a command. A scanner that stops gives up its tasks. -/
def handle (wait : UInt64 → Nat) (tl : Timeline σ) (now : UInt64) (command : Command) :
    Timeline σ :=
  let (scanner, effects, answer) := tl.scanner.serve tl.time now command
  let tasks := effects.foldl (TimerTasks.apply wait tl.time) tl.tasks
  { tl with
    scanner
    tasks := if scanner.running then tasks else tasks.drop
    log := tl.log ++ [⟨tl.time, command, answer, effects⟩] }

/-- Makes a move; what is impossible does not happen. -/
def act (wait : UInt64 → Nat) (tl : Timeline σ) : Move σ → Timeline σ
  | .post command =>
    -- Only tasks send the tags of timers.
    if tl.attached && tl.scanner.running && !command.isTimer && tl.hasRoom then
      { tl with queue := tl.queue ++ [command] }
    else tl
  | .serve now =>
    if tl.scanner.running then
      match tl.queue with
      | command :: queue => { tl with queue }.handle wait now command
      -- A scanner that nobody can command any more stops.
      | [] => if tl.isOpen then tl else tl.handle wait now .shutdown
    else tl
  | .wake place =>
    match tl.tasks.get? place with
    | some task =>
      if task.phase = .asleep ∧ task.deadline ≤ tl.time then
        { tl with
          tasks := tl.tasks.setPhase place (if tl.isOpen then .sending else .ended)
          scanner := { tl.scanner with
            timers := tl.scanner.timers.disarm task.tag.scanClass } }
      else tl
    | none => tl
  | .send place =>
    match tl.tasks.get? place with
    | some task =>
      if task.phase = .sending ∧ tl.hasRoom then
        { tl with
          tasks := tl.tasks.setPhase place .ended
          queue := tl.queue ++ [.timerFired task.tag] }
      else tl
    | none => tl
  | .pass time =>
    if tl.isQuiescent ∧ tl.time ≤ time ∧
        ∀ task ∈ tl.tasks.all, task.phase = .asleep → time ≤ task.deadline then
      { tl with time }
    else tl
  | .detach => { tl with attached := false }
  | .script change =>
    { tl with scanner := { tl.scanner with
      engine := { tl.scanner.engine with driver := change tl.scanner.engine.driver } } }

def play (wait : UInt64 → Nat) (tl : Timeline σ) (moves : List (Move σ)) : Timeline σ :=
  moves.foldl (act wait) tl

end Driver

/-! ### What holds at every moment -/

/-- Nobody can send commands any more. -/
def Closed (tl : Timeline σ) : Prop :=
  tl.attached = false ∧ ∀ c task, tl.tasks.held.get c = some task → task.phase ≠ .sending

/-- How many requests of its class were admitted after that of a tag, modulo 2^64. -/
def age (tl : Timeline σ) (tag : TimerTag) : UInt64 :=
  (tl.scanner.engine.lanes.get tag.scanClass).epoch - tag.epoch

/-- The request `r` in flight of a class was admitted at the entry `start`, and `task` is its
timer. -/
structure Timed (wait : UInt64 → Nat) (tl : Timeline σ) (c : ScanClass) (r : Request)
    (start : LogEntry) (task : TimerTask) : Prop where
  last : lastFor c tl.log = some start
  admits : start.Admits r.tag
  held : tl.tasks.held.get c = some task
  tag : task.tag = r.tag
  deadline : task.deadline = start.time + wait tl.scanner.engine.config.scanTimeoutMs
  started : start.time ≤ tl.time
  asleep : task.phase = .asleep → tl.time ≤ task.deadline
  awake : task.phase ≠ .asleep → tl.time = task.deadline
  ended : task.phase = .ended → .timerFired r.tag ∈ tl.queue ∨ tl.Closed

/-- A class has the timer of its request in flight, or none. -/
structure Clocked (wait : UInt64 → Nat) (tl : Timeline σ) (c : ScanClass) : Prop where
  idle : tl.scanner.engine.inFlight? c = none → tl.tasks.held.get c = none
  timed : ∀ r, tl.scanner.engine.inFlight? c = some r → ∃ start task, Timed wait tl c r start task

/-- A tag that waits at a position of the queue is recent. If it is that of the request in flight,
the timer of the request has sent it. -/
structure Recent (tl : Timeline σ) (i : Nat) (tag : TimerTag) : Prop where
  position : (tl.age tag).toNat + i < tl.depth.toNat
  sent : tl.age tag = 0 → ∀ task, tl.scanner.engine.isScanning tag.scanClass →
    tl.tasks.held.get tag.scanClass = some task → task.phase = .ended

/-- A request that is ended by its timeout is ended when the wait is over. -/
def Punctual (timeout : Nat) (log : List LogEntry) : Prop :=
  ∀ k entry tag handler, log[k]? = some entry →
    .finish tag handler (.failed .timedOut) ∈ entry.effects →
      ∃ start, lastFor tag.scanClass (log.take k) = some start ∧ start.Admits tag ∧
        entry.time = start.time + timeout

structure Sound (wait : UInt64 → Nat) (config : EngineConfig) (tl : Timeline σ) : Prop where
  configured : tl.scanner.engine.config = config
  tasks : tl.tasks.Sound
  consistent : ∀ c r, tl.scanner.engine.inFlight? c = some r →
    r.Consistent c (tl.scanner.engine.lanes.get c).epoch
  clocked : tl.scanner.running = true → ∀ c, Clocked wait tl c
  recent : tl.scanner.running = true → ∀ i tag, tl.queue[i]? = some (.timerFired tag) →
    tl.Recent i tag
  punctual : Punctual (wait config.scanTimeoutMs) tl.log

variable {wait : UInt64 → Nat} {config : EngineConfig} {tl : Timeline σ}

theorem sound_initial (config : EngineConfig) (driver : σ) (depth : UInt64) :
    (initial config driver depth).Sound wait config where
  configured := rfl
  tasks := TimerTasks.sound_idle
  consistent c r flight := by cases c <;> cases flight
  clocked _ c := ⟨fun _ => by cases c <;> rfl, fun r flight => by cases c <;> cases flight⟩
  recent _ i tag waits := by cases waits
  punctual k entry tag handler at? := by cases at?

namespace Sound

theorem tagged (sound : tl.Sound wait config) : tl.scanner.engine.Tagged := fun c r flight =>
  (sound.consistent c r flight).scanClass

theorem isOpen_eq_false_iff (sound : tl.Sound wait config) : tl.isOpen = false ↔ tl.Closed := by
  simp only [isOpen, Closed, Bool.or_eq_false_iff, List.any_eq_false, decide_eq_true_eq]
  refine and_congr_right fun _ => ⟨fun none c task held sending => ?_, fun none task member => ?_⟩
  · have going : task.phase ≠ .ended := by
      rw [sending]
      decide
    exact none task ((sound.tasks.mem_all_iff going).2 ⟨c, held⟩) sending
  · intro sending
    have going : task.phase ≠ .ended := by
      rw [sending]
      decide
    obtain ⟨c, held⟩ := (sound.tasks.mem_all_iff going).1 member
    exact none c task held sending

theorem age_eq_zero (sound : tl.Sound wait config) {c : ScanClass} {r : Request}
    (flight : tl.scanner.engine.inFlight? c = some r) : tl.age r.tag = 0 := by
  have fits := sound.consistent c r flight
  rw [age, Request.tag, fits.scanClass, ← fits.epoch, UInt64.sub_self]

/-- Only a task with a handle can wake or send. -/
theorem held_of_get? (sound : tl.Sound wait config) {place : TaskPlace} {task : TimerTask}
    (at? : tl.tasks.get? place = some task) (going : task.phase ≠ .ended) :
    ∃ c, place = .held c ∧ tl.tasks.held.get c = some task := by
  cases place with
  | held c => exact ⟨c, rfl, at?⟩
  | released i =>
    have member := List.mem_of_getElem? at?
    exact absurd (sound.tasks.released task member) going

/-- A task that is held is the timer of the request in flight. -/
theorem exists_timed (sound : tl.Sound wait config) (running : tl.scanner.running = true)
    {c : ScanClass} {task : TimerTask} (held : tl.tasks.held.get c = some task) :
    ∃ r start, tl.scanner.engine.inFlight? c = some r ∧ Timed wait tl c r start task := by
  cases flight : tl.scanner.engine.inFlight? c with
  | none => cases ((sound.clocked running c).idle flight).symm.trans held
  | some r =>
    obtain ⟨start, task', timed⟩ := (sound.clocked running c).timed r flight
    cases timed.held.symm.trans held
    exact ⟨r, start, rfl, timed⟩

/-- A class without a request has no task, whatever the task of a class does. -/
theorem idle_setPhase (sound : tl.Sound wait config) (running : tl.scanner.running = true)
    {c : ScanClass} {task : TimerTask} (held : tl.tasks.held.get c = some task)
    (phase : TaskPhase) {d : ScanClass} (idle : tl.scanner.engine.inFlight? d = none) :
    (tl.tasks.setPhase (.held c) phase).held.get d = none := by
  obtain ⟨r, start, flight, timed⟩ := sound.exists_timed running held
  have other : d ≠ c := by
    rintro rfl
    cases idle.symm.trans flight
  rw [TimerTasks.held_setPhase held, if_neg other]
  exact (sound.clocked running d).idle idle

/-- When nothing is left to do, the queue is empty and open. -/
theorem of_quiescent (sound : tl.Sound wait config) (running : tl.scanner.running = true)
    (quiet : tl.isQuiescent = true) : tl.queue = [] ∧ ¬tl.Closed := by
  simp only [isQuiescent, running, Bool.not_true, Bool.false_or, Bool.and_eq_true,
    List.isEmpty_iff] at quiet
  refine ⟨quiet.1.1, fun closed => ?_⟩
  rw [sound.isOpen_eq_false_iff.2 closed] at quiet
  cases quiet.1.2

/-- When nothing is left to do, the timer of a request in flight is asleep. -/
theorem asleep_of_quiescent (sound : tl.Sound wait config) (running : tl.scanner.running = true)
    (quiet : tl.isQuiescent = true) {c : ScanClass} {r : Request} {start : LogEntry}
    {task : TimerTask} (timed : Timed wait tl c r start task) :
    task.phase = .asleep ∧ tl.time < task.deadline := by
  obtain ⟨queue, opened⟩ := sound.of_quiescent running quiet
  have going : task.phase ≠ .ended := by
    intro finished
    rcases timed.ended finished with waits | closed
    · rw [queue] at waits
      cases waits
    · exact opened closed
  have member := (sound.tasks.mem_all_iff going).2 ⟨c, timed.held⟩
  simp only [isQuiescent, Bool.and_eq_true, List.all_eq_true, Bool.or_eq_true,
    decide_eq_true_eq] at quiet
  exact (quiet.2 task member).resolve_left going

end Sound

end Timeline

end WifiScan

import WifiScan.Proofs.Engine.ClassLog
import WifiScan.Proofs.Scanner.Timers

/-!
# Timers as tasks

Arming a timer spawns a task that sleeps until its deadline and then sends the timer's tag. For each
class there is a handle on the last task spawned, until the timer is disarmed or armed again; a task
is aborted when its handle is given up.

A task that can still do something is one with a handle (`TimerTasks.live_eq`). The timers of a
scanner are the tasks that sleep (`TimerTasks.table_foldl`).
-/
namespace WifiScan

inductive TaskPhase where
  | asleep
  /-- The sleep is over, and the task waits for room in the queue. -/
  | sending
  /-- The tag is sent, or nobody was left to send it to, or the task was aborted. -/
  | ended
  deriving DecidableEq

structure TimerTask where
  tag : TimerTag
  deadline : Nat
  phase : TaskPhase
  deriving DecidableEq

def TimerTask.abort (task : TimerTask) : TimerTask := { task with phase := .ended }

/-- The timer that a sleeping task is. -/
def TimerTask.timer? (task : TimerTask) : Option ArmedTimer :=
  if task.phase = .asleep then some ⟨task.tag, task.deadline⟩ else none

/-- Every task that was spawned. -/
structure TimerTasks where
  held : PerClass (Option TimerTask)
  /-- The tasks whose handles were given up. -/
  released : List TimerTask

/-- Where a task is. -/
inductive TaskPlace where
  | held (scanClass : ScanClass)
  | released (index : Nat)

namespace TimerTasks

def idle : TimerTasks := ⟨.both none, []⟩

def disarm (t : TimerTasks) (c : ScanClass) : TimerTasks :=
  match t.held.get c with
  | none => t
  | some task => ⟨t.held.set c none, t.released ++ [task.abort]⟩

/-- Spawns the task of a tag, in place of the class's task before it. -/
def arm (t : TimerTasks) (tag : TimerTag) (deadline : Nat) : TimerTasks :=
  let t := t.disarm tag.scanClass
  { t with held := t.held.set tag.scanClass (some ⟨tag, deadline, .asleep⟩) }

/-- Gives up all handles. -/
def drop (t : TimerTasks) : TimerTasks := (t.disarm .single).disarm .background

def all (t : TimerTasks) : List TimerTask := ScanClass.all.filterMap t.held.get ++ t.released

/-- The tasks of a class that can still do something. -/
def live (t : TimerTasks) (c : ScanClass) : List TimerTask :=
  t.all.filter fun task => task.tag.scanClass = c ∧ task.phase ≠ .ended

def get? (t : TimerTasks) : TaskPlace → Option TimerTask
  | .held c => t.held.get c
  | .released i => t.released[i]?

def setPhase (t : TimerTasks) (place : TaskPlace) (phase : TaskPhase) : TimerTasks :=
  match place with
  | .held c => { t with held := t.held.set c ((t.held.get c).map ({ · with phase })) }
  | .released i => { t with released := t.released.modify i ({ · with phase }) }

/-- Carries out what an effect says about the timers, where a wait of some milliseconds lasts as
long as `wait` says. -/
def apply (wait : UInt64 → Nat) (now : Nat) (t : TimerTasks) : Effect → TimerTasks
  | .arm tag delayMs => t.arm tag (now + wait delayMs)
  | .disarm c => t.disarm c
  | _ => t

/-- The timers that have not fired. -/
def table (t : TimerTasks) : Timers := t.held.map (·.bind TimerTask.timer?)

/-! ### What operations do to the tasks held -/

theorem held_disarm (t : TimerTasks) (c d : ScanClass) :
    (t.disarm c).held.get d = if d = c then none else t.held.get d := by
  unfold disarm
  split
  next idle =>
    split
    next same => rw [same, idle]
    next => rfl
  next => exact PerClass.get_set ..

theorem held_arm (t : TimerTasks) (tag : TimerTag) (deadline : Nat) (d : ScanClass) :
    (t.arm tag deadline).held.get d =
      if d = tag.scanClass then some ⟨tag, deadline, .asleep⟩ else t.held.get d := by
  simp only [arm, PerClass.get_set, held_disarm]
  split <;> rfl

theorem held_drop (t : TimerTasks) (c : ScanClass) : t.drop.held.get c = none := by
  rw [drop, held_disarm, held_disarm]
  cases c <;> rfl

/-- What an effect for its class does to the task of the class. -/
def heldAfter (wait : UInt64 → Nat) (now : Nat) (held : Option TimerTask) :
    Effect → Option TimerTask
  | .arm tag delayMs => some ⟨tag, now + wait delayMs, .asleep⟩
  | .disarm _ => none
  | _ => held

theorem held_apply (wait : UInt64 → Nat) (now : Nat) (t : TimerTasks) (effect : Effect)
    (c : ScanClass) :
    (t.apply wait now effect).held.get c =
      if effect.scanClass = c then heldAfter wait now (t.held.get c) effect
      else t.held.get c := by
  cases effect with
  | arm tag delayMs =>
    rw [apply, held_arm]
    by_cases own : c = tag.scanClass
    · rw [if_pos own, Effect.scanClass, if_pos own.symm, heldAfter]
    · rw [if_neg own, Effect.scanClass, if_neg (Ne.symm own)]
  | disarm d =>
    rw [apply, held_disarm]
    by_cases own : c = d
    · rw [if_pos own, Effect.scanClass, if_pos own.symm, heldAfter]
    · rw [if_neg own, Effect.scanClass, if_neg (Ne.symm own)]
  | _ => exact (ite_self _).symm

theorem held_foldl (wait : UInt64 → Nat) (now : Nat) (t : TimerTasks) (effects : List Effect)
    (c : ScanClass) :
    (effects.foldl (apply wait now) t).held.get c =
      (effects.filter (·.scanClass = c)).foldl (heldAfter wait now) (t.held.get c) := by
  induction effects generalizing t with
  | nil => rfl
  | cons effect effects ih =>
    -- An effect for the other class leaves the task of this one as it is.
    rw [List.foldl_cons, ih, held_apply]
    by_cases own : effect.scanClass = c
    · rw [if_pos own, List.filter_cons_of_pos (by simpa using own), List.foldl_cons]
    · rw [if_neg own, List.filter_cons_of_neg (by simpa using own)]

theorem held_setPhase {t : TimerTasks} {c : ScanClass} {task : TimerTask}
    (held : t.held.get c = some task) (phase : TaskPhase) (d : ScanClass) :
    (t.setPhase (.held c) phase).held.get d =
      if d = c then some { task with phase } else t.held.get d := by
  rw [setPhase, PerClass.get_set, held]
  rfl

/-! ### Released tasks have ended -/

/-- Tasks are held for their class, and have ended if they are released. -/
structure Sound (t : TimerTasks) : Prop where
  held : ∀ c task, t.held.get c = some task → task.tag.scanClass = c
  released : ∀ task ∈ t.released, task.phase = .ended

theorem sound_idle : idle.Sound := by
  constructor
  · intro c task held
    cases c <;> cases held
  · simp [idle]

namespace Sound

variable {t : TimerTasks}

theorem disarm (sound : t.Sound) (c : ScanClass) : (t.disarm c).Sound := by
  constructor
  · intro d task held
    rw [held_disarm] at held
    split at held
    · cases held
    · exact sound.held d task held
  · unfold TimerTasks.disarm
    split
    · exact sound.released
    · intro task member
      rcases List.mem_append.1 member with old | new
      · exact sound.released task old
      · rw [List.mem_singleton.1 new]
        rfl

theorem arm (sound : t.Sound) (tag : TimerTag) (deadline : Nat) : (t.arm tag deadline).Sound := by
  constructor
  · intro d task held
    rw [held_arm] at held
    split at held
    next same =>
      cases held
      exact same.symm
    next => exact sound.held d task held
  · exact (sound.disarm tag.scanClass).released

theorem drop (sound : t.Sound) : t.drop.Sound := (sound.disarm .single).disarm .background

theorem foldl (sound : t.Sound) (wait : UInt64 → Nat) (now : Nat) (effects : List Effect) :
    (effects.foldl (apply wait now) t).Sound := by
  induction effects generalizing t with
  | nil => exact sound
  | cons effect effects ih =>
    refine ih ?_
    cases effect with
    | arm tag delayMs => exact sound.arm ..
    | disarm c => exact sound.disarm c
    | _ => exact sound

theorem setPhase (sound : t.Sound) (c : ScanClass) (phase : TaskPhase) :
    (t.setPhase (.held c) phase).Sound := by
  refine ⟨fun d task held => ?_, sound.released⟩
  simp only [TimerTasks.setPhase, PerClass.get_set] at held
  split at held
  next same =>
    obtain ⟨before, at?, rfl⟩ := Option.map_eq_some_iff.1 held
    exact same ▸ sound.held c before at?
  next => exact sound.held d task held

theorem mem_all_iff (sound : t.Sound) {task : TimerTask} (going : task.phase ≠ .ended) :
    task ∈ t.all ↔ ∃ c, t.held.get c = some task := by
  rw [all, List.mem_append, List.mem_filterMap]
  constructor
  · rintro (⟨c, -, held⟩ | old)
    · exact ⟨c, held⟩
    · exact absurd (sound.released task old) going
  · rintro ⟨c, held⟩
    exact Or.inl ⟨c, by cases c <;> simp [ScanClass.all], held⟩

/-- The only task of a class that can still do something is the one that is held. -/
theorem live_eq (sound : t.Sound) (c : ScanClass) :
    t.live c = (t.held.get c).toList.filter (·.phase ≠ .ended) := by
  have released : t.released.filter
      (fun task => task.tag.scanClass = c ∧ task.phase ≠ .ended) = [] := by
    apply List.filter_eq_nil_iff.2
    intro task member
    simp [sound.released task member]
  have classes : ScanClass.all.filterMap t.held.get =
      (t.held.get .single).toList ++ (t.held.get .background).toList := by
    cases single : t.held.get .single <;> cases background : t.held.get .background <;>
      simp [ScanClass.all, single, background]
  -- The task of another class is not counted.
  have own (d : ScanClass) : (t.held.get d).toList.filter
      (fun task => task.tag.scanClass = c ∧ task.phase ≠ .ended) =
        if d = c then (t.held.get d).toList.filter (·.phase ≠ .ended) else [] := by
    cases held : t.held.get d with
    | none => split <;> rfl
    | some task =>
      have tag := sound.held d task held
      by_cases same : d = c <;> simp [tag, same, List.filter_cons]
  rw [live, all, List.filter_append, released, List.append_nil, classes, List.filter_append,
    own, own]
  cases c <;> simp

end Sound

/-! ### Sleeping tasks are the timers of a scanner -/

theorem table_get (t : TimerTasks) (c : ScanClass) :
    t.table.get c = (t.held.get c).bind TimerTask.timer? := PerClass.get_map ..

theorem table_arm (t : TimerTasks) (tag : TimerTag) (deadline : Nat) (c : ScanClass) :
    (t.arm tag deadline).table.get c =
      if c = tag.scanClass then some ⟨tag, deadline⟩ else t.table.get c := by
  rw [table_get, held_arm, table_get]
  split <;> rfl

theorem table_arm_finish [Wait] (t : TimerTasks) (now : Nat) (tag : TimerTag) (delayMs : UInt64) :
    (t.arm tag (now + Wait.finish 0 delayMs)).table = t.table.arm now tag delayMs := by
  have deadline : now + Wait.finish 0 delayMs = Wait.finish now delayMs := by
    simp only [Wait.finish, Nat.zero_add]
  apply PerClass.ext_get
  intro c
  rw [table_arm, deadline, Timers.get_arm]

theorem table_disarm (t : TimerTasks) (c : ScanClass) : (t.disarm c).table = t.table.disarm c := by
  apply PerClass.ext_get
  intro d
  rw [table_get, held_disarm, Timers.get_disarm, table_get]
  split <;> rfl

theorem table_apply [Wait] (now : Nat) (t : TimerTasks) (effect : Effect) :
    (t.apply (Wait.finish 0) now effect).table = Timers.apply now t.table effect := by
  cases effect with
  | arm tag delayMs => exact table_arm_finish ..
  | disarm d => exact table_disarm ..
  | _ => rfl

theorem table_setPhase (t : TimerTasks) (c : ScanClass) {phase : TaskPhase}
    (awake : phase ≠ .asleep) : (t.setPhase (.held c) phase).table = t.table.disarm c := by
  apply PerClass.ext_get
  intro d
  rw [table_get, setPhase, PerClass.get_set, Timers.get_disarm, table_get]
  split
  · cases t.held.get c with
    | none => rfl
    | some task => exact if_neg awake
  · rfl

theorem table_drop (t : TimerTasks) : t.drop.table = .idle := by
  apply PerClass.ext_get
  intro c
  rw [table_get, held_drop]
  cases c <;> rfl

theorem table_foldl [Wait] (now : Nat) (t : TimerTasks) (effects : List Effect) :
    (effects.foldl (apply (Wait.finish 0) now) t).table =
      effects.foldl (Timers.apply now) t.table := by
  induction effects generalizing t with
  | nil => rfl
  | cons effect effects ih => rw [List.foldl_cons, List.foldl_cons, ih, table_apply]

end TimerTasks

end WifiScan

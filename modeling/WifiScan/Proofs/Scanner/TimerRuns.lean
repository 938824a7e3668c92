import Mathlib.Data.List.MinMax
import WifiScan.Proofs.Scanner.TimerLanes
import WifiScan.Proofs.Scanner.TimerTasks

/-!
# Runs of timers

The tasks that timers are, with the handles on them and the time, as they are used by whoever holds
the timers. A task whose sleep is over posts its tag if the queue is still open; its handle stays
where it is. The queue has room.

## Main result

`timers_fire`: a timer posts its tag once, at its deadline, exactly if it is armed while the timers
and the queue are there and then left alone until a sleep takes the time to its deadline. Tags are
posted in the order of time, and what is done for the other class has no part in it.

## Proof strategy

A task that was aborted has ended, so that the tasks that sleep are those with a handle
(`TimerTasks.Sound.asleep_eq`). A sleep then wakes one task after another
(`TaskService.Woken.wake`), and a use does to the lane of a class what it says
(`TaskService.lane_use`).
-/
namespace WifiScan

namespace TimerTasks

/-- The tasks that sleep, and where they are. -/
def asleep (t : TimerTasks) : List (TaskPlace × ArmedTimer) :=
  (ScanClass.all.filterMap fun c => (t.table.get c).map (.held c, ·)) ++
    t.released.zipIdx.filterMap fun (task, i) => task.timer?.map (.released i, ·)

/-- The sleeping task with the first deadline. -/
def next? (t : TimerTasks) : Option (TaskPlace × ArmedTimer) :=
  t.asleep.argmin (·.2.deadline)

end TimerTasks

/-- The tasks of timers, the time, and the queue that they post to. -/
structure TaskService where
  now : Nat
  tasks : TimerTasks
  active : Bool
  /-- Whether somebody holds the queue open. -/
  queueOpen : Bool

namespace TaskService

def initial : TaskService := ⟨0, .idle, true, true⟩

/-- Time passes to the deadline of a task, and the task ends. -/
def wake (s : TaskService) (place : TaskPlace) (deadline : Nat) : TaskService :=
  { s with now := max s.now deadline, tasks := s.tasks.setPhase place .ended }

/-- Wakes the tasks due by a time. No more tasks wake than sleep, which bounds the number of
steps. -/
def wakeUntil : Nat → Nat → TaskService → TaskService × List Post
  | 0, _, s => (s, [])
  | fuel + 1, limit, s =>
    match s.tasks.next? with
    | none => (s, [])
    | some (place, a) =>
      if a.deadline ≤ limit then
        let awake := s.wake place a.deadline
        let (s', posts) := wakeUntil fuel limit awake
        -- A task finds nobody to post to once the queue was let go.
        (s', if awake.queueOpen then ⟨awake.now, a.tag⟩ :: posts else posts)
      else (s, [])

def use (wait : UInt64 → Nat) (s : TaskService) : TimerUse → TaskService × List Post
  | .arm tag delayMs =>
    (if s.active then { s with tasks := s.tasks.arm tag (s.now + wait delayMs) } else s, [])
  | .disarm c => ({ s with tasks := s.tasks.disarm c }, [])
  | .sleep ms =>
    let limit := s.now + wait ms
    let (s', posts) := wakeUntil s.tasks.asleep.length limit s
    ({ s' with now := limit }, posts)
  | .drop => ({ s with tasks := s.tasks.drop, active := false }, [])
  | .closeQueue => ({ s with queueOpen := false }, [])

/-- What is posted in a run. -/
def posts (wait : UInt64 → Nat) (s : TaskService) : List TimerUse → List Post
  | [] => []
  | use :: uses => (s.use wait use).2 ++ posts wait (s.use wait use).1 uses

end TaskService

namespace TimerService

variable [Wait]

def use (s : TimerService) : TimerUse → TimerService × List TimerTag
  | .arm tag delayMs => (s.arm tag delayMs, [])
  | .disarm c => (s.disarm c, [])
  | .sleep ms => s.sleep ms
  | .drop => (s.drop, [])
  | .closeQueue => (s.closeQueue, [])

/-- What is posted in a run. -/
def tags (s : TimerService) : List TimerUse → List TimerTag
  | [] => []
  | use :: uses => (s.use use).2 ++ tags (s.use use).1 uses

end TimerService

variable {wait : UInt64 → Nat}

/-! ### The sleeping tasks are those held -/

namespace TimerTasks

variable {t : TimerTasks}

theorem Sound.asleep_eq (sound : t.Sound) :
    t.asleep = ScanClass.all.filterMap fun c => (t.table.get c).map (.held c, ·) := by
  have released : (t.released.zipIdx.filterMap fun (task, i) =>
      task.timer?.map (.released i, ·)) = ([] : List (TaskPlace × ArmedTimer)) := by
    apply List.filterMap_eq_nil_iff.2
    intro (task, i) member
    have ended := sound.released task (List.fst_mem_of_mem_zipIdx member)
    simp [TimerTask.timer?, ended]
  rw [asleep, released, List.append_nil]

theorem Sound.scanClass_of_table (sound : t.Sound) {c : ScanClass} {a : ArmedTimer}
    (armed : t.table.get c = some a) : a.tag.scanClass = c := by
  rw [table_get] at armed
  obtain ⟨task, held, sleeps⟩ := Option.bind_eq_some_iff.1 armed
  rw [TimerTask.timer?] at sleeps
  split at sleeps
  · cases sleeps
    exact sound.held c task held
  · cases sleeps

/-- The task that is next to wake is the timer that is next to fire. -/
theorem Sound.next?_eq (sound : t.Sound) :
    t.next? = t.table.next?.map fun a => (.held a.tag.scanClass, a) := by
  rw [next?, sound.asleep_eq, Timers.next?_eq]
  -- Tasks have the class that they are held for, and of two the one that is due first is next.
  cases single : t.table.single with
  | none =>
    cases background : t.table.background with
    | none => simp [ScanClass.all, PerClass.get, single, background]
    | some b =>
      have own := sound.scanClass_of_table (c := .background) background
      simp [ScanClass.all, PerClass.get, single, background, own]
  | some a =>
    have own := sound.scanClass_of_table (c := .single) single
    cases background : t.table.background with
    | none => simp [ScanClass.all, PerClass.get, single, background, own]
    | some b =>
      have other := sound.scanClass_of_table (c := .background) background
      simp [ScanClass.all, PerClass.get, single, background, List.argmin_cons]
      split <;> simp [own, other]

theorem Sound.length_asleep (sound : t.Sound) : t.asleep.length = t.table.armed.length := by
  have both (c d : ScanClass) :
      ([c, d].filterMap fun c => (t.table.get c).map (TaskPlace.held c, ·)).length =
        ([c, d].filterMap t.table.get).length := by
    cases first : t.table.get c <;> cases second : t.table.get d <;> simp [first, second]
  rw [sound.asleep_eq, Timers.armed]
  exact both ..

end TimerTasks

namespace TaskService

/-- The lane of a class. -/
def lane (s : TaskService) (c : ScanClass) : TimerLane :=
  ⟨s.now, s.tasks.table.get c, s.active, s.queueOpen⟩

/-- No deadline of a sleeping task has passed, and none sleeps once the timers are given up. -/
structure Ready (s : TaskService) : Prop where
  sound : s.tasks.Sound
  ahead : ∀ c a, s.tasks.table.get c = some a → s.now ≤ a.deadline
  idle : s.active = false → ∀ c, s.tasks.table.get c = none

/-- The tasks due by a time have posted, in the order of their deadlines, and the others sleep. -/
structure Woken (s : TaskService) (limit : Nat) (s' : TaskService) (posts : List Post) : Prop where
  active : s'.active = s.active
  queueOpen : s'.queueOpen = s.queueOpen
  sound : s'.tasks.Sound
  asleep : ∀ c, s'.tasks.table.get c = (s.tasks.table.get c).filter (!·.isDue limit)
  posted : ∀ c, posts.filter (·.tag.scanClass = c) =
    if s.queueOpen then
      (((s.tasks.table.get c).filter (·.isDue limit)).map (·.post)).toList
    else []
  inOrder : posts.Pairwise (·.time ≤ ·.time)
  between : ∀ p ∈ posts, s.now ≤ p.time ∧ p.time ≤ limit

variable {s : TaskService}

theorem woken_self {limit : Nat} (sound : s.tasks.Sound)
    (later : ∀ c a, s.tasks.table.get c = some a → limit < a.deadline) : s.Woken limit s [] where
  active := rfl
  queueOpen := rfl
  sound := sound
  asleep c := by
    cases armed : s.tasks.table.get c with
    | none => rfl
    | some a => simp [Option.filter, ArmedTimer.isDue, later c a armed]
  posted c := by
    cases armed : s.tasks.table.get c with
    | none => simp
    | some a => simp [Option.filter, ArmedTimer.isDue, Nat.not_le.2 (later c a armed)]
  inOrder := .nil
  between := by simp

section Wake

variable {c : ScanClass} {a : ArmedTimer}

theorem table_wake (s : TaskService) (c : ScanClass) (deadline : Nat) :
    (s.wake (.held c) deadline).tasks.table = s.tasks.table.disarm c :=
  s.tasks.table_setPhase c (by decide)

theorem now_wake (ready : s.Ready) (armed : s.tasks.table.get c = some a) :
    (s.wake (.held c) a.deadline).now = a.deadline := Nat.max_eq_right (ready.ahead c a armed)

theorem Ready.wake (ready : s.Ready) (armed : s.tasks.table.get c = some a)
    (first : ∀ d b, s.tasks.table.get d = some b → a.deadline ≤ b.deadline) :
    (s.wake (.held c) a.deadline).Ready where
  sound := ready.sound.setPhase c .ended
  ahead d b asleep := by
    rw [table_wake, Timers.get_disarm] at asleep
    rw [now_wake ready armed]
    split at asleep
    · cases asleep
    · exact first d b asleep
  idle inactive := by cases (ready.idle inactive c).symm.trans armed

/-- What a task posts comes before what is posted by the tasks that wake after it. -/
theorem Woken.wake {limit : Nat} {s' : TaskService} {posts : List Post} (ready : s.Ready)
    (armed : s.tasks.table.get c = some a) (due : a.deadline ≤ limit)
    (woken : (s.wake (.held c) a.deadline).Woken limit s' posts) :
    s.Woken limit s' (if s.queueOpen then a.post :: posts else posts) where
  active := woken.active
  queueOpen := woken.queueOpen
  sound := woken.sound
  asleep d := by
    rw [woken.asleep, table_wake, Timers.get_disarm]
    split
    next same => simp [same, armed, Option.filter, ArmedTimer.isDue, due]
    next => rfl
  posted d := by
    have own := ready.sound.scanClass_of_table armed
    have rest := woken.posted d
    rw [table_wake, Timers.get_disarm] at rest
    change _ = if s.queueOpen then _ else _ at rest
    cases opened : s.queueOpen with
    | false => simpa [opened] using rest
    | true =>
      -- What the task posts comes before all that is posted for its class later.
      by_cases same : d = c
      · subst same
        simpa [opened, armed, Option.filter, ArmedTimer.isDue, due, own, ArmedTimer.post,
          List.filter_cons] using rest
      · simpa [opened, same, own, ArmedTimer.post, List.filter_cons, Ne.symm same] using rest
  inOrder := by
    split
    · refine List.pairwise_cons.2 ⟨fun p member => ?_, woken.inOrder⟩
      have later := (woken.between p member).1
      rwa [now_wake ready armed] at later
    · exact woken.inOrder
  between p member := by
    have bounds : ∀ p ∈ posts, s.now ≤ p.time ∧ p.time ≤ limit := fun p member =>
      ⟨Nat.le_trans (Nat.le_max_left _ _) (woken.between p member).1, (woken.between p member).2⟩
    split at member
    · rcases List.mem_cons.1 member with rfl | member
      · exact ⟨ready.ahead c a armed, due⟩
      · exact bounds p member
    · exact bounds p member

end Wake

theorem wakeUntil_woken {fuel limit : Nat} (ready : s.Ready)
    (enough : s.tasks.table.armed.length = fuel) :
    s.Woken limit (wakeUntil fuel limit s).1 (wakeUntil fuel limit s).2 := by
  induction fuel generalizing s with
  | zero =>
    -- No timer is left.
    apply woken_self ready.sound
    intro c a armed
    have := Timers.length_armed_disarm armed
    omega
  | succ fuel ih =>
    rw [wakeUntil, ready.sound.next?_eq]
    cases next : s.tasks.table.next? with
    | none =>
      apply woken_self ready.sound
      intro c a armed
      cases (Timers.next?_eq_none next c).symm.trans armed
    | some a =>
      obtain ⟨⟨c, armed⟩, first⟩ := Timers.next?_eq_some next
      obtain rfl := ready.sound.scanClass_of_table armed
      by_cases due : a.deadline ≤ limit
      · -- The earliest timer fires, and what is left is as before with one timer less.
        have less := Timers.length_armed_disarm armed
        have rest := ih (ready.wake armed first) (by rw [table_wake]; omega)
        have step := rest.wake ready armed due
        simp only [Option.map_some, if_pos due, now_wake ready armed]
        exact step
      · simp only [Option.map_some, if_neg due]
        exact woken_self ready.sound fun d b asleep =>
          Nat.lt_of_lt_of_le (Nat.lt_of_not_le due) (first d b asleep)

/-- A sleep is long enough for all tasks that are due. -/
theorem sleep_woken (ready : s.Ready) (limit : Nat) :
    s.Woken limit (wakeUntil s.tasks.asleep.length limit s).1
      (wakeUntil s.tasks.asleep.length limit s).2 :=
  wakeUntil_woken ready ready.sound.length_asleep.symm

theorem ready_initial : initial.Ready where
  sound := TimerTasks.sound_idle
  ahead c a armed := by cases c <;> cases armed
  idle _ c := by cases c <;> rfl

theorem lane_use (ready : s.Ready) (use : TimerUse) (c : ScanClass) :
    (s.use wait use).1.lane c = ((s.lane c).use wait c use).1 := by
  -- What is done for the other class leaves the lane as it is.
  cases use with
  | arm tag delayMs =>
    cases active : s.active with
    | false => simp [TaskService.use, TimerLane.use, lane, active]
    | true =>
      by_cases own : tag.scanClass = c
      · simp [TaskService.use, TimerLane.use, lane, active, own, TimerTasks.table_arm]
      · simp [TaskService.use, TimerLane.use, lane, active, own, TimerTasks.table_arm, Ne.symm own]
  | disarm d =>
    by_cases own : d = c
    · simp [TaskService.use, TimerLane.use, lane, own, TimerTasks.table_disarm, Timers.get_disarm]
    · simp [TaskService.use, TimerLane.use, lane, own, TimerTasks.table_disarm, Timers.get_disarm,
        Ne.symm own]
  | sleep ms =>
    have woken := sleep_woken ready (s.now + wait ms)
    simp [TaskService.use, TimerLane.use, lane, woken.asleep, woken.active, woken.queueOpen]
  | drop =>
    have idle : (Timers.idle.get c) = none := by cases c <;> rfl
    simp [TaskService.use, TimerLane.use, lane, TimerTasks.table_drop, idle]
  | closeQueue => rfl

theorem Ready.use (ready : s.Ready) (use : TimerUse) : (s.use wait use).1.Ready := by
  -- Where the deadlines are is seen in the lanes.
  have lanes (c : ScanClass) :
      (s.use wait use).1.lane c = ((s.lane c).use wait c use).1 := lane_use ready use c
  have ahead (c : ScanClass) : ∀ a, (s.lane c).timer = some a → (s.lane c).now ≤ a.deadline :=
    ready.ahead c
  have idle (c : ScanClass) : (s.lane c).active = false → (s.lane c).timer = none :=
    fun inactive => ready.idle inactive c
  constructor
  · cases use with
    | arm tag delayMs =>
      rw [TaskService.use]
      split
      · exact ready.sound.arm ..
      · exact ready.sound
    | disarm c => exact ready.sound.disarm c
    | sleep ms => exact (sleep_woken ready (s.now + wait ms)).sound
    | drop => exact ready.sound.drop
    | closeQueue => exact ready.sound
  · intro c
    change ∀ a, ((s.use wait use).1.lane c).timer = some a →
      ((s.use wait use).1.lane c).now ≤ a.deadline
    rw [lanes]
    exact TimerLane.ahead_use (ahead c) use
  · intro inactive c
    change ((s.use wait use).1.lane c).active = false at inactive
    change ((s.use wait use).1.lane c).timer = none
    rw [lanes] at inactive ⊢
    exact TimerLane.idle_use (idle c) use inactive

theorem filter_use (ready : s.Ready) (use : TimerUse) (c : ScanClass) :
    (s.use wait use).2.filter (·.tag.scanClass = c) = ((s.lane c).use wait c use).2 := by
  cases use with
  | sleep ms => exact (sleep_woken ready (s.now + wait ms)).posted c
  | _ => rfl

/-- What is posted for a class in a run is what its lane says. -/
theorem filter_posts (ready : s.Ready) (uses : List TimerUse) (c : ScanClass) :
    (s.posts wait uses).filter (·.tag.scanClass = c) = (s.lane c).posts wait c uses := by
  induction uses generalizing s with
  | nil => rfl
  | cons use uses ih =>
    rw [posts, List.filter_append, filter_use ready, ih (ready.use use), lane_use ready,
      TimerLane.posts]

theorem now_use (s : TaskService) (use : TimerUse) :
    (s.use wait use).1.now = s.now + use.lasts wait := by
  cases use with
  | arm tag delayMs =>
    rw [TaskService.use]
    split <;> rfl
  | _ => rfl

/-- Nothing is posted before a run starts, and posts are in the order of time. -/
theorem posts_inOrder (ready : s.Ready) (uses : List TimerUse) :
    (s.posts wait uses).Pairwise (·.time ≤ ·.time) ∧
      ∀ p ∈ s.posts wait uses, s.now ≤ p.time := by
  induction uses generalizing s with
  | nil => exact ⟨.nil, by simp [posts]⟩
  | cons use uses ih =>
    obtain ⟨inOrder, later⟩ := ih (ready.use use)
    rw [now_use] at later
    -- The posts of a use lie between its start and its end.
    have first : (s.use wait use).2.Pairwise (·.time ≤ ·.time) ∧
        ∀ p ∈ (s.use wait use).2, s.now ≤ p.time ∧ p.time ≤ s.now + use.lasts wait := by
      cases use with
      | sleep ms =>
        have woken := sleep_woken ready (s.now + wait ms)
        exact ⟨woken.inOrder, woken.between⟩
      | _ => exact ⟨.nil, by simp [TaskService.use]⟩
    rw [posts]
    constructor
    · refine List.pairwise_append.2 ⟨first.1, inOrder, fun p early q late => ?_⟩
      exact Nat.le_trans (first.2 p early).2 (later q late)
    · intro p member
      rcases List.mem_append.1 member with early | late
      · exact (first.2 p early).1
      · exact Nat.le_trans (Nat.le_add_right _ _) (later p late)

/-! ### Tasks and timers -/

/-- The timers that the tasks are, at a time. -/
def service (s : TaskService) (now : Nat) : TimerService :=
  ⟨now, s.tasks.table, s.active, s.queueOpen⟩

theorem service_wake (s : TaskService) (c : ScanClass) (deadline now : Nat) :
    (s.wake (.held c) deadline).service now = (s.service now).disarm c := by
  rw [service, table_wake]
  rfl

theorem fireUntil_service (ready : s.Ready) (fuel limit now : Nat) :
    (s.service now).fireUntil fuel limit =
      ((wakeUntil fuel limit s).1.service now, (wakeUntil fuel limit s).2.map (·.tag)) := by
  induction fuel generalizing s with
  | zero => rfl
  | succ fuel ih =>
    have timers : (s.service now).timers = s.tasks.table := rfl
    rw [TimerService.fireUntil, wakeUntil, ready.sound.next?_eq, timers]
    cases next : s.tasks.table.next? with
    | none => rfl
    | some a =>
      obtain ⟨⟨c, armed⟩, first⟩ := Timers.next?_eq_some next
      obtain rfl := ready.sound.scanClass_of_table armed
      simp only [Option.map_some]
      split
      · rw [← service_wake s a.tag.scanClass a.deadline, ih (ready.wake armed first)]
        cases opened : s.queueOpen <;> simp [wake, service, opened]
      · rfl

theorem service_use [Wait] (ready : s.Ready) (use : TimerUse) :
    (s.service s.now).use use =
      ((s.use (Wait.finish 0) use).1.service (s.use (Wait.finish 0) use).1.now,
        (s.use (Wait.finish 0) use).2.map (·.tag)) := by
  cases use with
  | arm tag delayMs =>
    cases active : s.active <;>
      simp [TimerService.use, TimerService.arm, TaskService.use, service, active,
        TimerTasks.table_arm_finish]
  | disarm c =>
    simp [TimerService.use, TimerService.disarm, TaskService.use, service, TimerTasks.table_disarm]
  | sleep ms =>
    have limit : s.now + Wait.finish 0 ms = Wait.finish s.now ms := by
      simp only [Wait.finish, Nat.zero_add]
    simp only [TimerService.use, TimerService.sleep, TaskService.use, limit,
      ready.sound.length_asleep]
    rw [show (s.service s.now).timers = s.tasks.table from rfl,
      show (s.service s.now).now = s.now from rfl, fireUntil_service ready]
    rfl
  | drop =>
    simp [TimerService.use, TimerService.drop, TaskService.use, service, TimerTasks.table_drop]
  | closeQueue => rfl

theorem tags_service [Wait] (ready : s.Ready) (uses : List TimerUse) :
    (s.service s.now).tags uses = (s.posts (Wait.finish 0) uses).map (·.tag) := by
  induction uses generalizing s with
  | nil => rfl
  | cons use uses ih =>
    rw [TimerService.tags, posts, service_use ready, ih (ready.use use), List.map_append]

end TaskService

namespace TimerService

theorem now_fireUntil (fuel limit : Nat) (s : TimerService) :
    (fireUntil fuel limit s).1.now = s.now := by
  induction fuel generalizing s with
  | zero => rfl
  | succ fuel ih =>
    rw [fireUntil]
    split
    · rfl
    · split
      · exact ih _
      · rfl

/-- Letting the tasks run that are due now is to sleep for no time. -/
theorem sleep_zero (s : TimerService) : s.sleep 0 = s.settle := by
  have limit : Wait.finish s.now 0 = s.now := Nat.add_zero _
  have now := now_fireUntil s.timers.armed.length s.now s
  rw [sleep, settle, limit]
  generalize fireUntil s.timers.armed.length s.now s = out at now ⊢
  obtain ⟨⟨time, timers, active, queueOpen⟩, tags⟩ := out
  cases now
  rfl

end TimerService

/-! ### The law -/

/-- What is posted when timers are used. -/
structure TimersFire [Wait] (wait : UInt64 → Nat) (uses : List TimerUse) : Prop where
  /-- The posts for a class are those of its timers that fire, each once and at its deadline, in the
  order in which they were armed. -/
  fates : ∀ c, (TaskService.initial.posts wait uses).filter (·.tag.scanClass = c) =
    ((armings [] uses).filter fun a => a.tag.scanClass = c ∧ a.Fires wait).map (·.post wait)
  inOrder : (TaskService.initial.posts wait uses).Pairwise (·.time ≤ ·.time)
  /-- Nothing that is done for the other class changes what is posted for a class. -/
  apart : ∀ c others, uses.filter (·.concerns c) = others.filter (·.concerns c) →
    (TaskService.initial.posts wait uses).filter (·.tag.scanClass = c) =
      (TaskService.initial.posts wait others).filter (·.tag.scanClass = c)
  /-- With the waits of virtual time, these are the tags that its timers post. -/
  timers : wait = Wait.finish 0 →
    TimerService.initial.tags uses = (TaskService.initial.posts wait uses).map (·.tag)

/-- However long waits last, a timer posts its tag exactly if it is armed while the timers and the
queue are there and then left alone, and it does so once, at its deadline. -/
theorem timers_fire [Wait] (wait : UInt64 → Nat) (uses : List TimerUse) : TimersFire wait uses where
  fates c := by
    have after : TimerLane.After wait [] (TaskService.initial.lane c) := by
      constructor <;> cases c <;> simp [TaskService.initial, TaskService.lane, timeAfter]
    have idle : (TaskService.initial.lane c).timer = none := by cases c <;> rfl
    rw [TaskService.filter_posts TaskService.ready_initial, TimerLane.posts_eq after,
      TimerLane.pending_of_idle uses idle]
    rfl
  inOrder := (TaskService.posts_inOrder TaskService.ready_initial uses).1
  apart c others same := by
    rw [TaskService.filter_posts TaskService.ready_initial,
      TaskService.filter_posts TaskService.ready_initial, ← TimerLane.posts_filter_concerns, same,
      TimerLane.posts_filter_concerns]
  timers := by
    rintro rfl
    exact TaskService.tags_service TaskService.ready_initial uses

/-- A timer that is armed again does not fire, and one that was disarmed once it had fired does. -/
example :
    TaskService.initial.posts UInt64.toNat
      [.arm ⟨.single, 1⟩ 1000, .arm ⟨.background, 1⟩ 500, .arm ⟨.single, 2⟩ 1000, .sleep 2000,
        .disarm .single] =
      [⟨500, .background, 1⟩, ⟨1000, .single, 2⟩] := by decide

end WifiScan

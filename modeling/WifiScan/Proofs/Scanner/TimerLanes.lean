import WifiScan.Scanner.Timers

/-!
# When timers fire

Timers are armed, disarmed and given up, the queue that they post to loses the last one who holds it
open, and time passes while somebody sleeps, all in any order. A timer fires once a sleep takes the
time to its deadline, unless something that is done before silences it.

To one class, the timers are a lane: the time, the timer of the class that has not fired, and
whether the timers and the queue are there.

## Main result

`TimerLane.posts_eq`: what a lane posts is the tag of the timer it starts with, if that fires, and
then the tags of the timers armed that fire, in the order in which they are armed and each at its
deadline.

## Proof strategy

What a use posts, with what the timer of the lane is to post after it, is what the timer was to post
before, with what the timer armed by the use comes to (`TimerLane.use_append_pending`).
-/
namespace WifiScan

/-- What is done to timers. -/
inductive TimerUse where
  | arm (tag : TimerTag) (delayMs : UInt64)
  | disarm (scanClass : ScanClass)
  | sleep (ms : UInt64)
  /-- The timers are given up. -/
  | drop
  /-- The last one who holds the queue open lets it go. -/
  | closeQueue
  deriving DecidableEq

namespace TimerUse

/-- Whether it has to do with a class. -/
def concerns (c : ScanClass) : TimerUse → Bool
  | arm tag _ => tag.scanClass = c
  | disarm d => d = c
  | sleep _ | drop | closeQueue => true

/-- Whether it keeps a timer of a class from firing later. -/
def silences (c : ScanClass) : TimerUse → Bool
  | arm tag _ => tag.scanClass = c
  | disarm d => d = c
  | sleep _ => false
  | drop | closeQueue => true

/-- How long it takes, where a wait of some milliseconds lasts as long as `wait` says. -/
def lasts (wait : UInt64 → Nat) : TimerUse → Nat
  | sleep ms => wait ms
  | _ => 0

end TimerUse

/-- A tag that was posted. -/
structure Post where
  time : Nat
  tag : TimerTag
  deriving DecidableEq

namespace ArmedTimer

/-- What a timer posts at its deadline. -/
def post (a : ArmedTimer) : Post := ⟨a.deadline, a.tag⟩

/-- Whether a timer is due by a time. -/
def isDue (limit : Nat) (a : ArmedTimer) : Bool := a.deadline ≤ limit

end ArmedTimer

/-- The time that some uses take. -/
def timeAfter (wait : UInt64 → Nat) : List TimerUse → Nat
  | [] => 0
  | use :: uses => use.lasts wait + timeAfter wait uses

/-- A timer that is armed between some uses and others. -/
structure Arming where
  earlier : List TimerUse
  tag : TimerTag
  delayMs : UInt64
  later : List TimerUse

/-- The timer that a use arms between some uses and others. -/
def TimerUse.arming? (earlier later : List TimerUse) : TimerUse → Option Arming
  | .arm tag delayMs => some ⟨earlier, tag, delayMs, later⟩
  | _ => none

/-- The timers armed by some uses after others, in the order in which they are armed. -/
def armings (earlier : List TimerUse) : List TimerUse → List Arming
  | [] => []
  | use :: later => (use.arming? earlier later).toList ++ armings (earlier ++ [use]) later

/-- From a time on, a timer of a class is left alone until a sleep takes the time to its deadline.
Timers fire only while somebody sleeps: one that is armed for no time at all can still be silenced
before the next sleep. -/
def LeftAlone (wait : UInt64 → Nat) (c : ScanClass) (deadline now : Nat) (uses : List TimerUse) :
    Prop :=
  ∃ between ms rest, uses = between ++ .sleep ms :: rest ∧
    (∀ use ∈ between, use.silences c = false) ∧
      deadline ≤ now + timeAfter wait (between ++ [.sleep ms])

namespace Arming

variable (wait : UInt64 → Nat)

def deadline (a : Arming) : Nat := timeAfter wait a.earlier + wait a.delayMs

def post (a : Arming) : Post := ⟨a.deadline wait, a.tag⟩

/-- A timer is armed while the timers and the queue are there, and then left alone. -/
structure Fires (a : Arming) : Prop where
  present : ∀ use ∈ a.earlier, use ≠ .drop ∧ use ≠ .closeQueue
  alone : LeftAlone wait a.tag.scanClass (a.deadline wait) (timeAfter wait a.earlier) a.later

end Arming

variable {wait : UInt64 → Nat}

theorem timeAfter_concat (uses : List TimerUse) (use : TimerUse) :
    timeAfter wait (uses ++ [use]) = timeAfter wait uses + use.lasts wait := by
  induction uses with
  | nil => exact Nat.add_comm _ _
  | cons first uses ih => rw [List.cons_append, timeAfter, timeAfter, ih, Nat.add_assoc]

/-- Whether a timer is left alone. -/
def reaches (wait : UInt64 → Nat) (c : ScanClass) (deadline : Nat) : Nat → List TimerUse → Bool
  | _, [] => false
  | now, .sleep ms :: uses =>
    deadline ≤ now + wait ms || reaches wait c deadline (now + wait ms) uses
  | now, use :: uses => !use.silences c && reaches wait c deadline now uses

theorem LeftAlone.cons {c : ScanClass} {deadline now : Nat} {use : TimerUse}
    {uses : List TimerUse} (alone : use.silences c = false)
    (later : LeftAlone wait c deadline (now + use.lasts wait) uses) :
    LeftAlone wait c deadline now (use :: uses) := by
  obtain ⟨between, ms, rest, rfl, silent, due⟩ := later
  refine ⟨use :: between, ms, rest, rfl, List.forall_mem_cons.2 ⟨alone, silent⟩, ?_⟩
  rwa [List.cons_append, timeAfter, ← Nat.add_assoc]

theorem reaches_iff (c : ScanClass) (deadline now : Nat) (uses : List TimerUse) :
    reaches wait c deadline now uses = true ↔ LeftAlone wait c deadline now uses := by
  constructor
  · intro reached
    induction uses generalizing now with
    | nil => cases reached
    | cons use uses ih =>
      cases use with
      | sleep ms =>
        rcases Bool.or_eq_true_iff.1 reached with due | later
        · refine ⟨[], ms, uses, rfl, by simp, ?_⟩
          exact of_decide_eq_true due
        · exact .cons rfl (ih _ later)
      | _ =>
        obtain ⟨alone, later⟩ := Bool.and_eq_true_iff.1 reached
        exact .cons (by simpa using alone) (ih now later)
  · -- The sleep that comes to the deadline need not be the first.
    rintro ⟨between, ms, rest, rfl, silent, due⟩
    induction between generalizing now with
    | nil => exact Bool.or_eq_true_iff.2 (Or.inl (decide_eq_true due))
    | cons use between ih =>
      obtain ⟨alone, silent⟩ := List.forall_mem_cons.1 silent
      rw [List.cons_append, timeAfter, ← Nat.add_assoc] at due
      have later := ih (now + use.lasts wait) silent due
      cases use with
      | sleep ms => exact Bool.or_eq_true_iff.2 (Or.inr later)
      | _ => exact Bool.and_eq_true_iff.2 ⟨by simpa using alone, later⟩

namespace Arming

theorem fires_iff (a : Arming) :
    a.Fires wait ↔ (.drop ∉ a.earlier ∧ .closeQueue ∉ a.earlier) ∧
      reaches wait a.tag.scanClass (a.deadline wait) (timeAfter wait a.earlier) a.later = true := by
  rw [reaches_iff]
  constructor
  · rintro ⟨present, alone⟩
    constructor
    · exact ⟨fun dropped => (present _ dropped).1 rfl, fun closed => (present _ closed).2 rfl⟩
    · exact alone
  · rintro ⟨⟨kept, opened⟩, alone⟩
    refine ⟨fun use member => ⟨?_, ?_⟩, alone⟩
    · rintro rfl
      exact kept member
    · rintro rfl
      exact opened member

instance (wait : UInt64 → Nat) (a : Arming) : Decidable (a.Fires wait) :=
  decidable_of_iff _ (fires_iff a).symm

end Arming

/-! ### Lanes -/

/-- What the timers are to one class. -/
structure TimerLane where
  now : Nat
  /-- The timer of the class, if it has not fired. -/
  timer : Option ArmedTimer
  active : Bool
  queueOpen : Bool

namespace TimerLane

def use (wait : UInt64 → Nat) (c : ScanClass) (lane : TimerLane) :
    TimerUse → TimerLane × List Post
  | .arm tag delayMs =>
    (if lane.active ∧ tag.scanClass = c then
      { lane with timer := some ⟨tag, lane.now + wait delayMs⟩ } else lane, [])
  | .disarm d => (if d = c then { lane with timer := none } else lane, [])
  | .sleep ms =>
    let limit := lane.now + wait ms
    ({ lane with now := limit, timer := lane.timer.filter (!·.isDue limit) },
      if lane.queueOpen then ((lane.timer.filter (·.isDue limit)).map (·.post)).toList else [])
  | .drop => ({ lane with timer := none, active := false }, [])
  | .closeQueue => ({ lane with queueOpen := false }, [])

def posts (wait : UInt64 → Nat) (c : ScanClass) (lane : TimerLane) : List TimerUse → List Post
  | [] => []
  | use :: uses => (lane.use wait c use).2 ++ posts wait c (lane.use wait c use).1 uses

/-- What the timer of a lane is to post. -/
def pending (wait : UInt64 → Nat) (c : ScanClass) (lane : TimerLane) (uses : List TimerUse) :
    List Post :=
  if lane.queueOpen then
    ((lane.timer.filter (reaches wait c ·.deadline lane.now uses)).map (·.post)).toList
  else []

/-- What those timers of a class post that fire. -/
def fates (wait : UInt64 → Nat) (c : ScanClass) (timers : List Arming) : List Post :=
  (timers.filter fun a => a.tag.scanClass = c ∧ a.Fires wait).map (·.post wait)

variable {c : ScanClass} {lane : TimerLane}

/-! ### What a use keeps -/

/-- No timer is armed once the timers are given up. -/
theorem idle_use (idle : lane.active = false → lane.timer = none) (use : TimerUse)
    (inactive : (lane.use wait c use).1.active = false) : (lane.use wait c use).1.timer = none := by
  cases use <;> grind [TimerLane.use]

/-- No deadline passes without the timer's firing. -/
theorem ahead_use (ahead : ∀ a, lane.timer = some a → lane.now ≤ a.deadline) (use : TimerUse) :
    ∀ a, (lane.use wait c use).1.timer = some a → (lane.use wait c use).1.now ≤ a.deadline := by
  cases use with
  | sleep ms =>
    intro a asleep
    obtain ⟨-, later⟩ := Option.filter_eq_some_iff.1 asleep
    simp only [ArmedTimer.isDue, Bool.not_eq_true', decide_eq_false_iff_not] at later
    exact Nat.le_of_not_le later
  | _ => grind [TimerLane.use]

/-- A lane after some uses. -/
structure After (wait : UInt64 → Nat) (earlier : List TimerUse) (lane : TimerLane) : Prop where
  now : lane.now = timeAfter wait earlier
  active : lane.active = true ↔ .drop ∉ earlier
  queueOpen : lane.queueOpen = true ↔ .closeQueue ∉ earlier
  idle : lane.active = false → lane.timer = none

theorem After.use {earlier : List TimerUse} (after : After wait earlier lane) (use : TimerUse) :
    After wait (earlier ++ [use]) (lane.use wait c use).1 where
  now := by
    have now := after.now
    cases use <;> grind [TimerLane.use, timeAfter_concat, TimerUse.lasts]
  active := by
    have active := after.active
    cases use <;> grind [TimerLane.use]
  queueOpen := by
    have queueOpen := after.queueOpen
    cases use <;> grind [TimerLane.use]
  idle := idle_use after.idle use

/-! ### What a lane posts -/

theorem pending_of_idle (uses : List TimerUse) (idle : lane.timer = none) :
    lane.pending wait c uses = [] := by
  rw [pending, idle]
  exact ite_self _

theorem pending_of_silences {use : TimerUse} (uses : List TimerUse) (silent : use.silences c) :
    lane.pending wait c (use :: uses) = [] := by
  have never (deadline : Nat) : reaches wait c deadline lane.now (use :: uses) = false := by
    cases use with
    | sleep ms => cases silent
    | _ => simp only [reaches, silent, Bool.not_true, Bool.false_and]
  simp [pending, never]

/-- A sleep posts the tag of the timer if it comes to the deadline, and else leaves it pending. -/
theorem sleep_append_pending (ms : UInt64) (uses : List TimerUse) :
    (lane.use wait c (.sleep ms)).2 ++ (lane.use wait c (.sleep ms)).1.pending wait c uses =
      lane.pending wait c (.sleep ms :: uses) := by
  obtain ⟨now, timer, active, queueOpen⟩ := lane
  cases queueOpen with
  | false => rfl
  | true =>
    cases timer with
    | none => rfl
    | some a =>
      by_cases due : a.deadline ≤ now + wait ms <;>
        simp [TimerLane.use, pending, reaches, Option.filter, ArmedTimer.isDue, due]

/-- What is pending once a timer is armed is what the timer comes to. -/
theorem arm_pending {earlier : List TimerUse} (after : After wait earlier lane) {tag : TimerTag}
    (own : tag.scanClass = c) (delayMs : UInt64) (uses : List TimerUse) :
    (lane.use wait c (.arm tag delayMs)).1.pending wait c uses =
      fates wait c [⟨earlier, tag, delayMs, uses⟩] := by
  have fires : Arming.Fires wait ⟨earlier, tag, delayMs, uses⟩ ↔ _ := Arming.fires_iff _
  rw [← after.active, ← after.queueOpen, Arming.deadline, ← after.now] at fires
  cases running : lane.active with
  | false =>
    -- Nothing was armed, and nothing is while the timers are given up.
    simp [TimerLane.use, pending, fates, fires, running, after.idle]
  | true =>
    have post : Arming.post wait ⟨earlier, tag, delayMs, uses⟩ =
        ⟨lane.now + wait delayMs, tag⟩ := by
      rw [Arming.post, Arming.deadline, after.now]
    simp only [running, true_and, own] at fires
    by_cases opened : lane.queueOpen = true <;>
      cases left : reaches wait c (lane.now + wait delayMs) lane.now uses <;>
        simp [TimerLane.use, pending, fates, running, own, fires, opened, left, post,
          Option.filter, ArmedTimer.post]

theorem use_append_pending {earlier : List TimerUse} (after : After wait earlier lane)
    (use : TimerUse) (uses : List TimerUse) :
    (lane.use wait c use).2 ++ (lane.use wait c use).1.pending wait c uses =
      lane.pending wait c (use :: uses) ++ fates wait c (use.arming? earlier uses).toList := by
  cases use with
  | arm tag delayMs =>
    by_cases own : tag.scanClass = c
    · -- The timer before is replaced, and posts nothing.
      rw [pending_of_silences uses (by simpa [TimerUse.silences] using own)]
      exact arm_pending after own delayMs uses
    · simp [TimerLane.use, TimerUse.arming?, fates, pending, own, reaches, TimerUse.silences]
  | sleep ms =>
    rw [sleep_append_pending]
    exact (List.append_nil _).symm
  | disarm d =>
    by_cases own : d = c <;>
      simp [TimerLane.use, TimerUse.arming?, fates, pending, own, reaches, TimerUse.silences]
  | drop =>
    rw [pending_of_silences uses rfl]
    exact pending_of_idle uses rfl
  | closeQueue =>
    rw [pending_of_silences uses rfl]
    rfl

theorem posts_eq {earlier : List TimerUse} (after : After wait earlier lane)
    (uses : List TimerUse) :
    lane.posts wait c uses =
      lane.pending wait c uses ++ fates wait c (armings earlier uses) := by
  induction uses generalizing lane earlier with
  | nil => simp [posts, pending, reaches, armings, fates]
  | cons use uses ih =>
    rw [posts, ih (after.use use), ← List.append_assoc, use_append_pending after, armings, fates,
      fates, fates, List.filter_append, List.map_append, List.append_assoc]

/-- Nothing that is done for the other class changes what a lane posts. -/
theorem posts_filter_concerns (uses : List TimerUse) :
    lane.posts wait c (uses.filter (·.concerns c)) = lane.posts wait c uses := by
  induction uses generalizing lane with
  | nil => rfl
  | cons use uses ih =>
    cases concerned : use.concerns c with
    | true => rw [List.filter_cons_of_pos concerned, posts, posts, ih]
    | false =>
      have idle : lane.use wait c use = (lane, []) := by
        cases use <;> simp_all [TimerLane.use, TimerUse.concerns]
      rw [List.filter_cons_of_neg (by simp [concerned]), ih, posts, idle, List.nil_append]

end TimerLane

end WifiScan

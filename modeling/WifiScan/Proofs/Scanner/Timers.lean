import WifiScan.Scanner.Basic

/-!
# Armed timers

What the table of timers says after an operation on it, and which timer is the next to fire. An
operation of the engine touches the timers only by its arm and disarm effects.
-/
namespace WifiScan

/-- The requests that a timer was armed for, which are those whose command the driver took. -/
def armedBy (effects : List Effect) : List TimerTag :=
  effects.filterMap fun
    | .arm tag _ => some tag
    | _ => none

theorem armedBy_append (fx more : List Effect) :
    armedBy (fx ++ more) = armedBy fx ++ armedBy more :=
  List.filterMap_append

namespace Timers

theorem get_disarm (t : Timers) (c d : ScanClass) :
    (t.disarm c).get d = if d = c then none else t.get d := PerClass.get_set ..

theorem get_arm [Wait] (t : Timers) (now : Nat) (tag : TimerTag) (delayMs : UInt64)
    (d : ScanClass) :
    (t.arm now tag delayMs).get d =
      if d = tag.scanClass then some ⟨tag, Wait.finish now delayMs⟩ else t.get d :=
  PerClass.get_set ..

theorem disarm_eq_self (t : Timers) {c : ScanClass} (idle : t.get c = none) : t.disarm c = t := by
  apply PerClass.ext_get
  intro d
  rw [get_disarm]
  split
  next same => rw [same, idle]
  next => rfl

theorem next?_eq (t : Timers) :
    t.next? =
      match t.single, t.background with
      | none, b => b
      | some a, none => some a
      | some a, some b => some (if b.deadline < a.deadline then b else a) := by
  obtain ⟨single, background⟩ := t
  cases single with
  | none => cases background <;> rfl
  | some a =>
    cases background with
    | none => rfl
    | some b => exact (apply_ite some _ _ _).symm

/-- The timer that is next to fire is armed, and no armed timer fires before it. -/
theorem next?_eq_some {t : Timers} {a : ArmedTimer} (h : t.next? = some a) :
    (∃ c, t.get c = some a) ∧ ∀ c b, t.get c = some b → a.deadline ≤ b.deadline := by
  obtain ⟨single, background⟩ := t
  rw [next?_eq] at h
  constructor
  · -- It is one of those armed.
    cases single <;> cases background <;> simp only [reduceCtorEq, Option.some.injEq] at h
    · exact ⟨.background, congrArg some h⟩
    · exact ⟨.single, congrArg some h⟩
    · split at h
      · exact ⟨.background, congrArg some h⟩
      · exact ⟨.single, congrArg some h⟩
  · -- It is the earlier one where both are armed.
    intro c b armed
    cases single <;> cases background <;> cases c <;> grind [PerClass.get]

theorem next?_eq_none {t : Timers} (h : t.next? = none) (c : ScanClass) : t.get c = none := by
  obtain ⟨single, background⟩ := t
  rw [next?_eq] at h
  cases single <;> cases background <;> cases h
  cases c <;> rfl

/-- Disarming an armed timer leaves one less. -/
theorem length_armed_disarm {t : Timers} {c : ScanClass} {a : ArmedTimer} (h : t.get c = some a) :
    (t.disarm c).armed.length + 1 = t.armed.length := by
  obtain ⟨single, background⟩ := t
  cases c with
  | single =>
    cases h
    cases background <;> rfl
  | background =>
    cases h
    cases single <;> rfl

/-! ### What effects do to timers -/

theorem foldl_apply_fullReports [Wait] (r : Request) (discovered : List ScanResult) (now : Nat)
    (t : Timers) : (Engine.fullReports r discovered).foldl (Timers.apply now) t = t := by
  unfold Engine.fullReports
  split
  · -- Each result is reported or not, and a report leaves the timers alone.
    induction discovered generalizing t with
    | nil => rfl
    | cons result rest ih =>
      rw [List.filterMap_cons]
      cases r.fullResultBucket? result.frequency with
      | none => exact ih t
      | some bucket => exact ih t
  · rfl

end Timers

end WifiScan

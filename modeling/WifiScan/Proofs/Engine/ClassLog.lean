import Mathlib.Data.List.Basic
import Mathlib.Data.List.Induction
import WifiScan.Proofs.Engine.ClassIndependence

/-!
# The log of a class

What a run does, it does for one class or for the other. Restricted to a class, an operation is one
step of the class's lane together with its effects (`perform_lane`), so a law about one class is
proved step by step along the log of the class, whatever happens to the other.
-/
namespace WifiScan

variable {σ : Type}

/-- Everything that was done in a run, in order. -/
def effectsOf (outcomes : List Outcome) : List Effect := outcomes.flatMap Outcome.effects

/-- What was done in a run for one class. -/
def classLog (c : ScanClass) (outcomes : List Outcome) : List Effect :=
  (effectsOf outcomes).filter (·.scanClass = c)

/-- How many requests of a class were admitted in a run. -/
def admissions (c : ScanClass) (ts : List (Turn σ)) (outcomes : List Outcome) : Nat :=
  (ts.zip outcomes).countP fun (t, o) => (t.admitted? o c).isSome

theorem effectsOf_concat (outcomes : List Outcome) (o : Outcome) :
    effectsOf (outcomes ++ [o]) = effectsOf outcomes ++ o.effects := by
  simp only [effectsOf, List.flatMap_append, List.flatMap_cons, List.flatMap_nil, List.append_nil]

theorem classLog_concat (c : ScanClass) (outcomes : List Outcome) (o : Outcome) :
    classLog c (outcomes ++ [o]) = classLog c outcomes ++ (o.forClass c).effects := by
  rw [classLog, effectsOf_concat, List.filter_append]
  rfl

private theorem filter_class (fx : PerClass (List Effect))
    (own : ∀ d, ∀ effect ∈ fx.get d, effect.scanClass = d) (c : ScanClass) :
    (fx.single ++ fx.background).filter (·.scanClass = c) = fx.get c := by
  have single : ∀ effect ∈ fx.single, effect.scanClass = .single := own .single
  have background : ∀ effect ∈ fx.background, effect.scanClass = .background := own .background
  rw [List.filter_append]
  cases c with
  | single =>
    rw [List.filter_eq_self.2 fun effect h => decide_eq_true (single effect h),
      List.filter_eq_nil_iff.2 fun effect h => by simp [background effect h], List.append_nil]
    rfl
  | background =>
    rw [List.filter_eq_nil_iff.2 fun effect h => by simp [single effect h],
      List.filter_eq_self.2 fun effect h => decide_eq_true (background effect h),
      List.nil_append]
    rfl

/-- Whoever looks only at effects for a class sees all of them among those for the class. -/
theorem filterMap_forClass {α : Type} {f : Effect → Option α} {c : ScanClass}
    (blind : ∀ effect, effect.scanClass ≠ c → f effect = none) (o : Outcome) :
    (o.forClass c).effects.filterMap f = o.effects.filterMap f := by
  rw [Outcome.forClass, List.filterMap_filter]
  apply List.filterMap_congr
  intro effect _
  by_cases own : effect.scanClass = c
  · rw [if_pos (decide_eq_true own)]
  · rw [if_neg (by simpa using own), blind effect own]

namespace Engine

theorem filterMap_fullReports {α : Type} (f : Effect → Option α)
    (blind : ∀ tag handler result bucket, f (.report tag handler result bucket) = none)
    (r : Request) (discovered : List ScanResult) :
    (fullReports r discovered).filterMap f = [] := by
  apply List.filterMap_eq_nil_iff.2
  intro effect member
  obtain ⟨result, bucket, rfl⟩ := eq_report_of_mem_fullReports member
  exact blind _ _ _ _

section Driver

variable [ScanDriver σ]

theorem run_tagged {e : Engine σ} (tagged : e.Tagged) (ts : List (Turn σ)) :
    (e.run ts).1.Tagged := by
  induction ts generalizing e with
  | nil => exact tagged
  | cons t ts ih => exact ih (perform_tagged tagged t)

theorem run_config (e : Engine σ) (ts : List (Turn σ)) : (e.run ts).1.config = e.config := by
  induction ts generalizing e with
  | nil => rfl
  | cons t ts ih => exact (ih (e.perform t).1).trans (perform_config e t)

theorem admissions_append (e : Engine σ) (c : ScanClass) (ts us : List (Turn σ)) :
    admissions c (ts ++ us) (e.run (ts ++ us)).2 =
      admissions c ts (e.run ts).2 + admissions c us ((e.run ts).1.run us).2 := by
  rw [run_append, admissions, List.zip_append (length_run ..).symm, List.countP_append,
    ← admissions, ← admissions]

theorem admissions_concat (e : Engine σ) (c : ScanClass) (ts : List (Turn σ)) (t : Turn σ) :
    admissions c (ts ++ [t]) (e.run (ts ++ [t])).2 =
      admissions c ts (e.run ts).2 +
        if (t.admitted? ((e.run ts).1.perform t).2 c).isSome then 1 else 0 := by
  rw [admissions_append]
  simp only [admissions, run, List.zip_cons_cons, List.zip_nil_right, List.countP_singleton]

theorem admissions_take_le (e : Engine σ) (c : ScanClass) (ts : List (Turn σ)) (k : Nat) :
    admissions c (ts.take k) (e.run (ts.take k)).2 ≤ admissions c ts (e.run ts).2 := by
  have split := e.admissions_append c (ts.take k) (ts.drop k)
  rw [List.take_append_drop] at split
  omega

/-- What the operations of a run bring, each seen with the engine before it. -/
def collect {α : Type} (f : Engine σ → Turn σ → Outcome → Option α) (e : Engine σ) :
    List (Turn σ) → List α
  | [] => []
  | t :: ts =>
    let (e', o) := e.perform t
    (f e t o).toList ++ collect f e' ts

theorem collect_append {α : Type} (f : Engine σ → Turn σ → Outcome → Option α) (e : Engine σ)
    (ts us : List (Turn σ)) :
    e.collect f (ts ++ us) = e.collect f ts ++ (e.run ts).1.collect f us := by
  induction ts generalizing e with
  | nil => rfl
  | cons t ts ih => simp only [List.cons_append, collect, run, ih, List.append_assoc]

theorem collect_concat {α : Type} (f : Engine σ → Turn σ → Outcome → Option α) (e : Engine σ)
    (ts : List (Turn σ)) (t : Turn σ) :
    e.collect f (ts ++ [t]) =
      e.collect f ts ++ (f (e.run ts).1 t ((e.run ts).1.perform t).2).toList := by
  rw [collect_append]
  simp only [collect, List.append_nil]

/-- What an operation does to a class, with the effects that concern the class. -/
theorem perform_lane {e : Engine σ} (tagged : e.Tagged) (t : Turn σ) (c : ScanClass) :
    e.LaneStep t.now c (t.admitted? (e.perform t).2 c) ((e.perform t).2.forClass c).effects
      ((e.perform t).1.lanes.get c) := by
  obtain ⟨fx, effects, steps, -⟩ := e.perform_lanes t
  -- The effects of the operation are those of the two classes, which come apart again.
  have own : ((e.perform t).2.forClass c).effects = fx.get c := by
    rw [Outcome.forClass, effects]
    exact filter_class fx (fun d => (steps d).scanClass_eq tagged) c
  rw [own]
  exact steps c

end Driver

end Engine

end WifiScan

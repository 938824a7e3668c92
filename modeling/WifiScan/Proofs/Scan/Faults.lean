import WifiScan.Scan.Settings

/-!
# Faults of settings

What is wrong with a request is told by the first thing found: that it has no buckets, then that it
keeps no results, then the first bucket that selects nothing to scan. `ScanSettings.FirstFault` says
so without searching, and `ScanSettings.fault?_eq_some_iff` says that the search finds it.
-/
namespace WifiScan

namespace BucketSettings

/-- A bucket at an index selects nothing to scan, which is a fault. -/
inductive Lacks (b : BucketSettings) (index : Nat) : RequestFault → Prop where
  | band (unspecified : b.channels = .band .unspecified) : b.Lacks index (.bucketWithoutBand index)
  | channels (none : b.channels = .channels []) : b.Lacks index (.bucketWithoutChannels index)

/-- A bucket that names a band or some channels. -/
def Selects (b : BucketSettings) : Prop :=
  b.channels ≠ .band .unspecified ∧ b.channels ≠ .channels []

variable {b : BucketSettings} {i : Nat} {fault : RequestFault}

theorem fault?_eq_some_iff : b.fault? i = some fault ↔ b.Lacks i fault := by
  constructor
  · intro found
    unfold fault? at found
    split at found
    next unspecified =>
      cases found
      exact .band unspecified
    next none =>
      cases found
      exact .channels none
    next => cases found
  · rintro (unspecified | none)
    · simp only [fault?, unspecified]
    · simp only [fault?, none]

theorem fault?_eq_none_iff : b.fault? i = none ↔ b.Selects := by
  unfold fault? Selects
  split
  next unspecified => simp [unspecified]
  next none => simp [none]
  next band channels => exact ⟨fun _ => ⟨band, channels⟩, fun _ => rfl⟩

end BucketSettings

/-- The first bucket of a list that selects nothing, with its fault. The buckets are counted from
`n` on. -/
private theorem findSome?_fault_iff (buckets : List BucketSettings) (n : Nat)
    (fault : RequestFault) :
    ((buckets.zipIdx n).findSome? fun (b, i) => b.fault? i) = some fault ↔
      ∃ i b, buckets[i]? = some b ∧ b.Lacks (n + i) fault ∧
        ∀ (j : Nat) other, j < i → buckets[j]? = some other → other.Selects := by
  induction buckets generalizing n with
  | nil => simp
  | cons first rest ih =>
    simp only [List.zipIdx_cons, List.findSome?_cons]
    cases found : first.fault? n with
    | some own =>
      have lacks := BucketSettings.fault?_eq_some_iff.1 found
      constructor
      · intro same
        cases same
        exact ⟨0, first, rfl, lacks, fun j other before => absurd before (Nat.not_lt_zero j)⟩
      · -- No later bucket counts.
        rintro ⟨i, b, at?, lacksToo, before⟩
        cases i with
        | zero =>
          cases at?
          exact found.symm.trans (BucketSettings.fault?_eq_some_iff.2 lacksToo)
        | succ i =>
          have selects := before 0 first (Nat.zero_lt_succ i) rfl
          cases (BucketSettings.fault?_eq_none_iff.2 selects).symm.trans found
    | none =>
      have selects := BucketSettings.fault?_eq_none_iff.1 found
      -- The search goes on in the rest, where each index is one less.
      refine (ih (n + 1)).trans ⟨?_, ?_⟩
      · rintro ⟨i, b, at?, lacks, before⟩
        rw [Nat.add_right_comm, Nat.add_assoc] at lacks
        refine ⟨i + 1, b, at?, lacks, fun j other earlier at' => ?_⟩
        cases j with
        | zero =>
          cases at'
          exact selects
        | succ j => exact before j other (Nat.lt_of_succ_lt_succ earlier) at'
      · rintro ⟨i, b, at?, lacks, before⟩
        cases i with
        | zero =>
          cases at?
          cases found.symm.trans (BucketSettings.fault?_eq_some_iff.2 lacks)
        | succ i =>
          rw [← Nat.add_assoc, Nat.add_right_comm] at lacks
          exact ⟨i, b, at?, lacks, fun j other earlier at' =>
            before (j + 1) other (Nat.succ_lt_succ earlier) at'⟩

namespace ScanSettings

/-- The first thing wrong with a request. -/
inductive FirstFault (s : ScanSettings) : RequestFault → Prop where
  | noBuckets (none : s.buckets = []) : s.FirstFault .noBuckets
  | zeroCap (some : s.buckets ≠ []) (zero : s.maxApPerScan = 0) : s.FirstFault .zeroCap
  | bucket {i : Nat} {b : BucketSettings} {fault : RequestFault} (positive : s.maxApPerScan ≠ 0)
      (at? : s.buckets[i]? = some b) (lacks : b.Lacks i fault)
      (first : ∀ (j : Nat) other, j < i → s.buckets[j]? = some other → other.Selects) :
      s.FirstFault fault

/-- A request that can be turned into a command. -/
structure Faultless (s : ScanSettings) : Prop where
  buckets : s.buckets ≠ []
  cap : s.maxApPerScan ≠ 0
  selects : ∀ b ∈ s.buckets, b.Selects

variable {s : ScanSettings}

theorem fault?_eq_some_iff {fault : RequestFault} : s.fault? = some fault ↔ s.FirstFault fault := by
  unfold fault?
  by_cases none : s.buckets = []
  · rw [if_pos none]
    constructor
    · intro found
      cases found
      exact .noBuckets none
    · rintro (_ | ⟨some, _⟩ | ⟨_, at?, _, _⟩)
      · rfl
      · exact absurd none some
      · rw [none] at at?
        cases at?
  · rw [if_neg none]
    by_cases zero : s.maxApPerScan = 0
    · rw [if_pos zero]
      constructor
      · intro found
        cases found
        exact .zeroCap none zero
      · rintro (nothing | _ | ⟨positive, _, _, _⟩)
        · exact absurd nothing none
        · rfl
        · exact absurd zero positive
    · rw [if_neg zero, findSome?_fault_iff]
      simp only [Nat.zero_add]
      constructor
      · rintro ⟨i, b, at?, lacks, first⟩
        exact .bucket zero at? lacks first
      · rintro (nothing | ⟨_, nothing⟩ | ⟨_, at?, lacks, first⟩)
        · exact absurd nothing none
        · exact absurd nothing zero
        · exact ⟨_, _, at?, lacks, first⟩

theorem fault?_eq_none_iff : s.fault? = none ↔ s.Faultless := by
  unfold fault?
  by_cases none : s.buckets = []
  · rw [if_pos none]
    exact ⟨fun found => (nomatch found), fun sound => absurd none sound.buckets⟩
  · rw [if_neg none]
    by_cases zero : s.maxApPerScan = 0
    · rw [if_pos zero]
      exact ⟨fun found => (nomatch found), fun sound => absurd zero sound.cap⟩
    · rw [if_neg zero, List.findSome?_eq_none_iff]
      constructor
      · intro all
        refine ⟨none, zero, fun b member => ?_⟩
        obtain ⟨i, at?⟩ := List.mem_iff_getElem?.1 member
        exact BucketSettings.fault?_eq_none_iff.1
          (all (b, i) (List.mem_zipIdx_iff_getElem?.2 at?))
      · rintro sound ⟨b, i⟩ member
        exact BucketSettings.fault?_eq_none_iff.2
          (sound.selects b (List.mem_of_getElem? (List.mem_zipIdx_iff_getElem?.1 member)))

end ScanSettings

end WifiScan

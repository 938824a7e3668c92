import WifiScan.Proofs.Channels.Composition

/-!
# The buckets of single results

A single result is reported for one bucket of its request: the first of those that want every result
to scan the result's frequency, or else the first of them. `Attributed` says which one that is, in
terms of what the buckets ask for.

## Main result

`searchFrom_attributed`: looking at the buckets one after another finds the bucket of a result, and
never asks for the frequencies of a bucket that has none. It finds none only if no bucket wants
every result.

## Proof strategy

`Walked` is what the search knows after some buckets: none of those that want every result scans the
frequency, and the fallback is the first of them. One more bucket keeps it (`Walked.next`).
-/
namespace WifiScan

theorem drop_succ_of_drop_eq_cons {α : Type} {l rest : List α} {a : α} {i : Nat}
    (from? : l.drop i = a :: rest) : l[i]? = some a ∧ l.drop (i + 1) = rest := by
  constructor
  · rw [← Nat.add_zero i, ← List.getElem?_drop, from?]
    rfl
  · rw [← List.drop_drop, from?]
    rfl

/-- The bucket that a result of frequency `f` is reported for, by its index. -/
inductive Attributed (t : FrequencyTable) (buckets : List BucketSettings) (f : Frequency) :
    Nat → Prop where
  | scanned {i : Nat} {b : BucketSettings} (bucket : buckets[i]? = some b)
      (wants : b.reportEvents.wantsFullResults) (scans : f ∈ b.frequencies t)
      (first : ∀ j b', j < i → buckets[j]? = some b' → b'.reportEvents.wantsFullResults →
        f ∉ b'.frequencies t) :
      Attributed t buckets f i
  | fallback {i : Nat} {b : BucketSettings} (bucket : buckets[i]? = some b)
      (wants : b.reportEvents.wantsFullResults)
      (nowhere : ∀ b' ∈ buckets, b'.reportEvents.wantsFullResults → f ∉ b'.frequencies t)
      (first : ∀ j b', j < i → buckets[j]? = some b' → ¬b'.reportEvents.wantsFullResults) :
      Attributed t buckets f i

/-- A result is reported for a bucket of its request that wants every result. -/
theorem Attributed.wanting {t : FrequencyTable} {buckets : List BucketSettings} {f : Frequency}
    {i : Nat} (own : Attributed t buckets f i) :
    ∃ b, buckets[i]? = some b ∧ b.reportEvents.wantsFullResults := by
  cases own with
  | scanned bucket wants _ _ => exact ⟨_, bucket, wants⟩
  | fallback bucket wants _ _ => exact ⟨_, bucket, wants⟩

namespace Request

/-- Looks for the bucket of a result of frequency `f` from the `i`-th bucket on. The search ends at
the first bucket that wants every result and scans `f`, and keeps the first one that wants every
result to fall back on. It fails at a bucket that has no frequencies to look at. -/
def searchFrom (r : Request) (f : Frequency) :
    List BucketSettings → Nat → Option Nat → Except Nat (Option Nat)
  | [], _, fallback => .ok fallback
  | b :: rest, i, fallback =>
    if b.reportEvents.wantsFullResults then
      match r.bucketFrequencies[i]? with
      | none => .error i
      | some fs =>
        if f ∈ fs then .ok (some i)
        else r.searchFrom f rest (i + 1) (fallback.or (some i))
    else r.searchFrom f rest (i + 1) fallback

/-- The bucket of a result, looked for from the first bucket on. -/
def search (r : Request) (f : Frequency) : Except Nat (Option Nat) :=
  r.searchFrom f r.settings.buckets 0 none

/-- The buckets of a request have the frequencies that they name. -/
def Resolved (r : Request) (t : FrequencyTable) : Prop :=
  r.bucketFrequencies = r.settings.buckets.map (·.frequencies t)

variable {r : Request} {t : FrequencyTable} {f : Frequency}

/-! ### What the search knows -/

/-- What a search knows that has looked at the first `i` buckets. -/
structure Walked (t : FrequencyTable) (buckets : List BucketSettings) (f : Frequency) (i : Nat)
    (fallback : Option Nat) : Prop where
  unseen : ∀ j b, j < i → buckets[j]? = some b → b.reportEvents.wantsFullResults →
    f ∉ b.frequencies t
  unwanted : fallback = none → ∀ j b, j < i → buckets[j]? = some b →
    ¬b.reportEvents.wantsFullResults
  first : ∀ k, fallback = some k → ∃ b, buckets[k]? = some b ∧ b.reportEvents.wantsFullResults ∧
    ∀ j b', j < k → buckets[j]? = some b' → ¬b'.reportEvents.wantsFullResults

namespace Walked

variable {buckets : List BucketSettings} {b : BucketSettings} {i : Nat} {fallback : Option Nat}

theorem start : Walked t buckets f 0 none where
  unseen _ _ before := absurd before (Nat.not_lt_zero _)
  unwanted _ _ _ before := absurd before (Nat.not_lt_zero _)
  first _ none := by cases none

/-- A bucket that does not want every result is passed over. -/
theorem skip (walked : Walked t buckets f i fallback) (bucket : buckets[i]? = some b)
    (unwanted : ¬b.reportEvents.wantsFullResults) : Walked t buckets f (i + 1) fallback where
  unseen j b' before at? wants := by
    rcases Nat.lt_succ_iff_lt_or_eq.1 before with earlier | rfl
    · exact walked.unseen j b' earlier at? wants
    · cases bucket.symm.trans at?
      exact absurd wants unwanted
  unwanted none j b' before at? := by
    rcases Nat.lt_succ_iff_lt_or_eq.1 before with earlier | rfl
    · exact walked.unwanted none j b' earlier at?
    · cases bucket.symm.trans at?
      exact unwanted
  first := walked.first

/-- A bucket that wants every result and does not scan the frequency becomes the fallback, unless
there is one. -/
theorem pass (walked : Walked t buckets f i fallback) (bucket : buckets[i]? = some b)
    (wants : b.reportEvents.wantsFullResults) (elsewhere : f ∉ b.frequencies t) :
    Walked t buckets f (i + 1) (fallback.or (some i)) where
  unseen j b' before at? wants' := by
    rcases Nat.lt_succ_iff_lt_or_eq.1 before with earlier | rfl
    · exact walked.unseen j b' earlier at? wants'
    · cases bucket.symm.trans at?
      exact elsewhere
  unwanted none := by
    rw [Option.or_eq_none_iff] at none
    cases none.2
  first k same := by
    -- The bucket is the first that wants results, unless there was one before it.
    cases old : fallback with
    | some k' =>
      rw [old, Option.some_or] at same
      exact walked.first k (old.trans same)
    | none =>
      rw [old, Option.none_or] at same
      cases same
      exact ⟨b, bucket, wants, walked.unwanted old⟩

/-- After all buckets the fallback is the bucket of the result, if there is one. -/
theorem finish (walked : Walked t buckets f i fallback) (all : buckets.length ≤ i) :
    (∀ k, fallback = some k → Attributed t buckets f k) ∧
      (fallback = none → ∀ b ∈ buckets, ¬b.reportEvents.wantsFullResults) := by
  have within {j : Nat} {b : BucketSettings} (at? : buckets[j]? = some b) : j < i :=
    Nat.lt_of_lt_of_le (List.getElem?_eq_some_iff.1 at?).1 all
  constructor
  · intro k same
    obtain ⟨b, bucket, wants, first⟩ := walked.first k same
    refine .fallback bucket wants (fun b' member wants' => ?_) first
    obtain ⟨j, at?⟩ := List.mem_iff_getElem?.1 member
    exact walked.unseen j b' (within at?) at? wants'
  · intro none b member
    obtain ⟨j, at?⟩ := List.mem_iff_getElem?.1 member
    exact walked.unwanted none j b (within at?) at?

end Walked

/-- A search finds the bucket of the result, or no bucket wants every result. -/
theorem searchFrom_attributed (resolved : r.Resolved t) {rest : List BucketSettings} {i : Nat}
    {fallback : Option Nat} (from? : r.settings.buckets.drop i = rest)
    (walked : Walked t r.settings.buckets f i fallback) :
    ∃ found, r.searchFrom f rest i fallback = .ok found ∧
      (∀ k, found = some k → Attributed t r.settings.buckets f k) ∧
      (found = none → ∀ b ∈ r.settings.buckets, ¬b.reportEvents.wantsFullResults) := by
  -- By induction on the buckets still to come, with what the search knows as the invariant.
  induction rest generalizing i fallback with
  | nil => exact ⟨fallback, rfl, walked.finish (List.drop_eq_nil_iff.1 from?)⟩
  | cons b rest ih =>
    obtain ⟨bucket, next⟩ := drop_succ_of_drop_eq_cons from?
    have own : r.bucketFrequencies[i]? = some (b.frequencies t) := by
      rw [resolved, List.getElem?_map, bucket]
      rfl
    simp only [searchFrom, own]
    split
    next wants =>
      split
      next scans =>
        refine ⟨some i, rfl, fun k same => ?_, fun none => by cases none⟩
        cases same
        exact .scanned bucket wants scans walked.unseen
      next elsewhere => exact ih next (walked.pass bucket wants elsewhere)
    next unwanted => exact ih next (walked.skip bucket unwanted)

/-! ### The search and the choice from all buckets -/

/-- The buckets that want every result, of some whose first has index `i`. -/
def wantingFrom (i : Nat) (buckets : List BucketSettings) (sets : List FrequencySet) :
    List (FrequencySet × Nat) :=
  (((buckets.zip sets).zipIdx i).filter fun ((b, _), _) => b.reportEvents.wantsFullResults).map
    fun ((_, fs), i) => (fs, i)

theorem wantingFrom_cons (i : Nat) (b : BucketSettings) (buckets : List BucketSettings)
    (fs : FrequencySet) (sets : List FrequencySet) :
    wantingFrom i (b :: buckets) (fs :: sets) =
      if b.reportEvents.wantsFullResults then (fs, i) :: wantingFrom (i + 1) buckets sets
      else wantingFrom (i + 1) buckets sets := by
  simp only [wantingFrom, List.zip_cons_cons, List.zipIdx_cons, List.filter_cons]
  split <;> rfl

theorem searchFrom_eq {buckets : List BucketSettings} {sets : List FrequencySet} {i : Nat}
    {fallback : Option Nat} (from? : r.bucketFrequencies.drop i = sets)
    (lengths : buckets.length = sets.length) :
    r.searchFrom f buckets i fallback = .ok
      ((((wantingFrom i buckets sets).find? fun (fs, _) => f ∈ fs).map Prod.snd).or
        (fallback.or ((wantingFrom i buckets sets).head?.map Prod.snd))) := by
  induction buckets generalizing i fallback sets with
  | nil =>
    have none : wantingFrom i [] sets = [] := rfl
    rw [none, searchFrom, List.find?_nil, List.head?_nil]
    cases fallback <;> rfl
  | cons b buckets ih =>
    -- The buckets and their frequencies are walked in step.
    cases sets with
    | nil => cases lengths
    | cons fs sets =>
      obtain ⟨own, next⟩ := drop_succ_of_drop_eq_cons from?
      have later (fallback : Option Nat) : r.searchFrom f buckets (i + 1) fallback = _ :=
        ih next (Nat.succ.inj lengths)
      simp only [searchFrom, own, later, wantingFrom_cons]
      by_cases wants : b.reportEvents.wantsFullResults
      · by_cases scans : f ∈ fs
        · simp [wants, scans]
        · cases fallback <;> simp [wants, scans]
      · simp [wants]

/-- The search comes to the choice that is made from all buckets at once. -/
theorem search_eq (resolved : r.Resolved t) (f : Frequency) :
    r.search f = .ok (r.fullResultBucket? f) := by
  have lengths : r.settings.buckets.length = r.bucketFrequencies.length := by
    rw [resolved, List.length_map]
  have whole : r.bucketFrequencies.drop 0 = r.bucketFrequencies := rfl
  rw [search, searchFrom_eq whole lengths, Option.none_or, ← Option.map_or]
  rfl

/-- If some bucket wants every result, there is a bucket to report each result for. -/
theorem fullResultBucket?_attributed (resolved : r.Resolved t)
    (wanted : ∃ b ∈ r.settings.buckets, b.reportEvents.wantsFullResults) (f : Frequency) :
    ∃ i, r.fullResultBucket? f = some i ∧ Attributed t r.settings.buckets f i := by
  have whole : r.settings.buckets.drop 0 = r.settings.buckets := rfl
  obtain ⟨found, search, attributed, unwanted⟩ :=
    searchFrom_attributed (f := f) resolved whole .start
  have same : found = r.fullResultBucket? f :=
    (Except.ok.inj ((search_eq resolved f).symm.trans search)).symm
  cases found with
  | some i => exact ⟨i, same.symm, attributed i rfl⟩
  | none =>
    obtain ⟨b, member, wants⟩ := wanted
    exact absurd wants (unwanted rfl b member)

end Request

end WifiScan

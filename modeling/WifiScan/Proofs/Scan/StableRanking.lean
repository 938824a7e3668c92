import WifiScan.Proofs.Scan.Ranking
import WifiScan.Proofs.Text.ByteOrder

/-!
# Rankings as stable sorts

A ranking is the beginning of a sorted list. Results of the same rank can differ in when they were
captured and in what else the access point tells, so a sorted list is determined only together with
the order of such results, which stays as it was.

## Main result

`ranking_law`: a scan retains of a driver's results those that are fresh and, if it says so, valid,
and ranks the beginning of their one stable sort.

## Proof strategy

The comparison of two results looks at four of their fields (`ScanResult.rankView`), and on these it
is antisymmetric. Two sorted lists of the same results therefore agree in the four fields position
by position (`map_rankView_eq`), and where also the results of each rank come in the same order,
they are equal (`StableSort.unique`).
-/
namespace WifiScan

/-! ### The ranking order -/

namespace ScanResult

/-- The strength, the address, the frequency and the name of two results agree. -/
structure SameRank (a b : ScanResult) : Prop where
  rssi : a.rssi = b.rssi
  bssid : a.bssid = b.bssid
  frequency : a.frequency = b.frequency
  ssid : a.ssid = b.ssid

instance (a b : ScanResult) : Decidable (a.SameRank b) :=
  decidable_of_iff
    (a.rssi = b.rssi ∧ a.bssid = b.bssid ∧ a.frequency = b.frequency ∧ a.ssid = b.ssid)
    ⟨fun ⟨rssi, bssid, frequency, ssid⟩ => ⟨rssi, bssid, frequency, ssid⟩,
      fun same => ⟨same.rssi, same.bssid, same.frequency, same.ssid⟩⟩

/-- One result is ranked before another by the first of the four in which they differ. The stronger
one is ranked first, and texts are in the order of their bytes. -/
inductive Outranks (a b : ScanResult) : Prop where
  | strength (stronger : b.rssi < a.rssi)
  | address (rssi : a.rssi = b.rssi) (less : Text.utf8 a.bssid < Text.utf8 b.bssid)
  | frequency (rssi : a.rssi = b.rssi) (bssid : a.bssid = b.bssid)
      (less : a.frequency < b.frequency)
  | name (rssi : a.rssi = b.rssi) (bssid : a.bssid = b.bssid)
      (frequency : a.frequency = b.frequency) (less : Text.utf8 a.ssid < Text.utf8 b.ssid)

/-- A comparison of results is a total preorder: it goes by the four fields in turn, and takes for
equal those that agree in all of them. -/
structure RankOrder (cmp : ScanResult → ScanResult → Ordering) : Prop where
  lt_iff : ∀ a b, cmp a b = .lt ↔ a.Outranks b
  eq_iff : ∀ a b, cmp a b = .eq ↔ a.SameRank b
  gt_iff : ∀ a b, cmp a b = .gt ↔ b.Outranks a
  trans : ∀ a b c, (cmp a b).isLE → (cmp b c).isLE → (cmp a c).isLE
  total : ∀ a b, (cmp a b).isLE ∨ (cmp b a).isLE

variable {a b : ScanResult}

theorem compareRank_eq_lt_iff : a.compareRank b = .lt ↔ a.Outranks b := by
  have texts {s t : String} : compare s t = .lt ↔ Text.utf8 s < Text.utf8 t :=
    compareOfLessAndEq_eq_lt.trans Text.lt_iff_utf8_lt
  have strengths {x y : Int32} : compare x y = .lt ↔ x < y := compareOfLessAndEq_eq_lt
  have frequencies {x y : Frequency} : compare x y = .lt ↔ x < y := compareOfLessAndEq_eq_lt
  simp only [compareRank, Ordering.then_eq_lt, texts, strengths, frequencies,
    Std.LawfulEqOrd.compare_eq_iff_eq]
  -- The keys are compared one after another, each only among equals in those before it.
  constructor
  · rintro (stronger | ⟨rssi, less | ⟨bssid, less | ⟨frequency, less⟩⟩⟩)
    · exact .strength stronger
    · exact .address rssi.symm less
    · exact .frequency rssi.symm bssid less
    · exact .name rssi.symm bssid frequency less
  · rintro (stronger | ⟨rssi, less⟩ | ⟨rssi, bssid, less⟩ | ⟨rssi, bssid, frequency, less⟩)
    · exact Or.inl stronger
    · exact Or.inr ⟨rssi.symm, Or.inl less⟩
    · exact Or.inr ⟨rssi.symm, Or.inr ⟨bssid, Or.inl less⟩⟩
    · exact Or.inr ⟨rssi.symm, Or.inr ⟨bssid, Or.inr ⟨frequency, less⟩⟩⟩

theorem compareRank_eq_eq_iff : a.compareRank b = .eq ↔ a.SameRank b := by
  simp only [compareRank, Ordering.then_eq_eq, Std.LawfulEqOrd.compare_eq_iff_eq]
  constructor
  · rintro ⟨rssi, bssid, frequency, ssid⟩
    exact ⟨rssi.symm, bssid, frequency, ssid⟩
  · rintro ⟨rssi, bssid, frequency, ssid⟩
    exact ⟨rssi.symm, bssid, frequency, ssid⟩

theorem rankOrder_compareRank : RankOrder compareRank where
  lt_iff _ _ := compareRank_eq_lt_iff
  eq_iff _ _ := compareRank_eq_eq_iff
  gt_iff _ _ := Std.OrientedCmp.gt_iff_lt.trans compareRank_eq_lt_iff
  trans _ _ _ := Std.TransCmp.isLE_trans
  total a b := (Bool.or_eq_true ..).mp (a.isLE_total b)

/-! ### Sorted lists -/

/-- A result without what a ranking does not look at. -/
def rankView (a : ScanResult) : ScanResult :=
  { a with timestampUs := 0, capabilities := "", informationElements := [] }

theorem rankView_eq_iff : a.rankView = b.rankView ↔ a.SameRank b := by
  simp only [rankView, mk.injEq, and_true]
  constructor
  · rintro ⟨ssid, bssid, rssi, frequency⟩
    exact ⟨rssi, bssid, frequency, ssid⟩
  · rintro ⟨rssi, bssid, frequency, ssid⟩
    exact ⟨ssid, bssid, rssi, frequency⟩

theorem SameRank.precedes (same : a.SameRank b) : a.Precedes b := by
  rw [Precedes, compareRank_eq_eq_iff.2 same]
  rfl

theorem precedes_antisymm (before : a.Precedes b) (after : b.Precedes a) : a.SameRank b :=
  compareRank_eq_eq_iff.1 (Std.OrientedCmp.isLE_antisymm before after)

end ScanResult

variable {results sorted sorted' : List ScanResult}

/-- Two sorted lists of the same results look the same to a ranking. -/
theorem map_rankView_eq (same : sorted.Perm sorted')
    (ordered : sorted.Pairwise ScanResult.Precedes)
    (ordered' : sorted'.Pairwise ScanResult.Precedes) :
    sorted.map ScanResult.rankView = sorted'.map ScanResult.rankView := by
  -- The comparison does not see the difference between a result and its view.
  have views : (sorted.map ScanResult.rankView).Pairwise ScanResult.Precedes :=
    ordered.map _ fun _ _ before => before
  have views' : (sorted'.map ScanResult.rankView).Pairwise ScanResult.Precedes :=
    ordered'.map _ fun _ _ before => before
  refine List.Perm.eq_of_pairwise ?_ views views' (same.map ScanResult.rankView)
  intro x y member member' before after
  obtain ⟨a, -, rfl⟩ := List.mem_map.1 member
  obtain ⟨b, -, rfl⟩ := List.mem_map.1 member'
  exact ScanResult.rankView_eq_iff.2 (ScanResult.precedes_antisymm (a := a) (b := b) before after)

/-- A list sorted by rank, in which the results of each rank stay in their order. -/
structure StableSort (results sorted : List ScanResult) : Prop where
  perm : sorted.Perm results
  ordered : sorted.Pairwise ScanResult.Precedes
  ties : ∀ r : ScanResult, sorted.filter (r.SameRank ·) = results.filter (r.SameRank ·)

private theorem eq_of_ties (view : sorted.map ScanResult.rankView = sorted'.map ScanResult.rankView)
    (ties : ∀ r : ScanResult, sorted.filter (r.SameRank ·) = sorted'.filter (r.SameRank ·)) :
    sorted = sorted' := by
  induction sorted generalizing sorted' with
  | nil => exact (List.map_eq_nil_iff.1 view.symm).symm
  | cons a rest ih =>
    cases sorted' with
    | nil => cases view
    | cons b rest' =>
      obtain ⟨head, more⟩ := List.cons.inj view
      have same : a.SameRank b := ScanResult.rankView_eq_iff.1 head
      -- The first result of a rank is the first of all that have it.
      have first := ties a
      rw [List.filter_cons_of_pos (by simpa using ⟨rfl, rfl, rfl, rfl⟩),
        List.filter_cons_of_pos (by simpa using same)] at first
      obtain rfl := (List.cons.inj first).1
      congr 1
      apply ih more
      intro r
      have tie := ties r
      simp only [List.filter_cons] at tie
      split at tie
      · exact (List.cons.inj tie).2
      · exact tie

/-- There is one stable sort of a list at most. -/
theorem StableSort.unique (stable : StableSort results sorted)
    (stable' : StableSort results sorted') : sorted = sorted' :=
  eq_of_ties
    (map_rankView_eq (stable.perm.trans stable'.perm.symm) stable.ordered stable'.ordered)
    fun r => (stable.ties r).trans (stable'.ties r).symm

theorem stableSort_sortByRank (results : List ScanResult) :
    StableSort results (sortByRank results) where
  perm := List.mergeSort_perm ..
  ordered := pairwise_sortByRank results
  ties r := by
    -- Results of one rank are in order as they stand, so sorting keeps them as they are.
    have tied : (results.filter (r.SameRank ·)).Pairwise ScanResult.Precedes := by
      refine List.pairwise_filter.2 (List.pairwise_of_forall fun a b own own' => ?_)
      have view := ScanResult.rankView_eq_iff.2 (of_decide_eq_true own)
      have view' := ScanResult.rankView_eq_iff.2 (of_decide_eq_true own')
      exact (ScanResult.rankView_eq_iff.1 (view.symm.trans view')).precedes
    have kept : (results.filter (r.SameRank ·)).Sublist (sortByRank results) :=
      List.sublist_mergeSort (fun _ _ _ => Std.TransCmp.isLE_trans)
        ScanResult.isLE_total tied List.filter_sublist
    have within := kept.filter (r.SameRank ·)
    rw [List.filter_filter] at within
    simp only [Bool.and_self] at within
    exact (within.eq_of_length ((List.mergeSort_perm ..).filter _).length_eq.symm).symm

/-! ### What a scan retains and ranks -/

/-- A result was captured since the start of a scan, and at a valid frequency if that matters. -/
def Retention.Keeps (r : Retention) (result : ScanResult) : Prop :=
  r.startTimeUs ≤ result.timestampUs ∧ (r.onlyValid → result.frequency ∈ r.validFrequencies)

instance (r : Retention) (result : ScanResult) : Decidable (r.Keeps result) :=
  inferInstanceAs (Decidable (_ ∧ (r.onlyValid → _)))

theorem Retention.retains_eq (r : Retention) (result : ScanResult) :
    r.retains result = decide (r.Keeps result) := by
  cases only : r.onlyValid <;> simp [retains, Keeps, only]

/-- A list has the results of another that are kept, each as often and in their order. -/
structure Retention.Retained (r : Retention) (raw kept : List ScanResult) : Prop where
  sublist : kept.Sublist raw
  count : ∀ result, kept.count result = if r.Keeps result then raw.count result else 0

/-- A list has the first results of another by rank, up to a cap. -/
structure TopRanked (cap : Nat) (results ranked : List ScanResult) : Prop where
  /-- There is one stable sort of the results, and the list is its beginning. -/
  beginning : ∃ sorted, (∀ other, StableSort results other ↔ other = sorted) ∧
    ranked = sorted.take (min cap results.length)
  length : ranked.length = min cap results.length
  ordered : ranked.Pairwise ScanResult.Precedes
  /-- Of the results of one rank the first ones are in the list, in their order. -/
  ties : ∀ r : ScanResult, ranked.filter (r.SameRank ·) <+: results.filter (r.SameRank ·)
  /-- With the results that are left out, none of which is ranked before one in the list, these are
  all. -/
  leftOut : ∃ others, (ranked ++ others).Perm results ∧
    ∀ kept ∈ ranked, ∀ other ∈ others, other.compareRank kept ≠ .lt

theorem Retention.retained_discovered (r : Retention) (raw : List ScanResult) :
    r.Retained raw (r.discovered raw) where
  sublist := List.filter_sublist
  count result := by
    split
    next keeps => exact List.count_filter ((r.retains_eq result).trans (decide_eq_true keeps))
    next drops =>
      refine List.count_eq_zero.2 fun member => drops ?_
      have passes := (List.mem_filter.1 member).2
      rw [r.retains_eq] at passes
      exact of_decide_eq_true passes

/-- What is retained is determined by the raw results. -/
theorem Retention.Retained.eq {r : Retention} {raw kept : List ScanResult}
    (retained : r.Retained raw kept) : kept = r.discovered raw := by
  have only : kept.filter r.retains = kept := by
    apply List.filter_eq_self.2
    intro result member
    rw [r.retains_eq, decide_eq_true_eq]
    apply Decidable.byContradiction
    intro drops
    have none := retained.count result
    rw [if_neg drops] at none
    exact List.count_eq_zero.1 none member
  have within : kept.Sublist (r.discovered raw) := only ▸ retained.sublist.filter r.retains
  refine within.eq_of_length (List.Perm.length_eq (List.perm_iff_count.2 fun result => ?_))
  rw [retained.count, (r.retained_discovered raw).count]

theorem topRanked_rank (cap : Nat) (results : List ScanResult) :
    TopRanked cap results (rank cap results) where
  beginning := by
    refine ⟨sortByRank results, fun other => ?_, ?_⟩
    · constructor
      · intro stable
        exact stable.unique (stableSort_sortByRank results)
      · rintro rfl
        exact stableSort_sortByRank results
    · have all := (stableSort_sortByRank results).perm.length_eq
      rw [rank_eq, List.take_eq_take_min, all]
  length := by
    have all := (stableSort_sortByRank results).perm.length_eq
    rw [rank_eq, List.length_take, all]
  ordered := pairwise_rank cap results
  ties r := by
    rw [← (stableSort_sortByRank results).ties r]
    exact (List.take_prefix ..).filter _
  leftOut := by
    -- What is kept and what is left out are one sorted list, cut in two.
    have whole : rank cap results ++ (sortByRank results).drop cap = sortByRank results :=
      List.take_append_drop ..
    refine ⟨(sortByRank results).drop cap, ?_, fun kept member other member' less => ?_⟩
    · rw [whole]
      exact (stableSort_sortByRank results).perm
    · have ordered := pairwise_sortByRank results
      rw [← whole, List.pairwise_append] at ordered
      have before : kept.Precedes other := ordered.2.2 kept member other member'
      rw [ScanResult.Precedes, Std.OrientedCmp.gt_iff_lt.2 less] at before
      cases before

/-- What a scan makes of a driver's raw results. -/
structure RankingLaw (r : Retention) (raw : List ScanResult) : Prop where
  order : ScanResult.RankOrder ScanResult.compareRank
  retained : ∀ kept, r.Retained raw kept ↔ kept = r.discovered raw
  ranked : ∀ cap, TopRanked cap (r.discovered raw) (rank cap (r.discovered raw))
  /-- A smaller cap keeps the beginning of what a greater one does. -/
  capped : ∀ cap cap', cap ≤ cap' →
    rank cap (r.discovered raw) <+: rank cap' (r.discovered raw)

/-- Whatever a driver reports, a scan retains what it keeps of that and ranks it, the best first. -/
theorem ranking_law (r : Retention) (raw : List ScanResult) : RankingLaw r raw where
  order := ScanResult.rankOrder_compareRank
  retained _ := ⟨Retention.Retained.eq, fun same => same ▸ r.retained_discovered raw⟩
  ranked cap := topRanked_rank cap (r.discovered raw)
  capped _ _ less := List.take_prefix_take_left less

end WifiScan

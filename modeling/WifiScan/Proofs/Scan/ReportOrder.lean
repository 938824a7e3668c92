import Mathlib.Data.List.Permutation
import WifiScan.Proofs.Scan.StableRanking

/-!
# Reports in any order

A driver may report what it has found in any order. The rankings of the same results agree in all
that a ranking looks at, wherever they are cut off; only results of the same rank may stand for each
other.

## Main result

`ranking_of_permuted`: rankings of the same reports in two orders are as long as each other and
agree in rank position by position, and they are equal if no two different results have the same
rank.
-/
namespace WifiScan

variable {results results' : List ScanResult}

theorem sortByRank_perm (same : results.Perm results') :
    (sortByRank results).Perm (sortByRank results') :=
  ((stableSort_sortByRank results).perm.trans same).trans
    (stableSort_sortByRank results').perm.symm

theorem map_rankView_rank (same : results.Perm results') (cap : Nat) :
    (rank cap results).map ScanResult.rankView = (rank cap results').map ScanResult.rankView := by
  rw [rank_eq, rank_eq, List.map_take, List.map_take,
    map_rankView_eq (sortByRank_perm same) (pairwise_sortByRank _) (pairwise_sortByRank _)]

/-- Results that can be told apart by rank have one sorted order. -/
theorem rank_eq_of_perm (same : results.Perm results')
    (apart : ∀ a ∈ results, ∀ b ∈ results, a.SameRank b → a = b) (cap : Nat) :
    rank cap results = rank cap results' := by
  rw [rank_eq, rank_eq]
  congr 1
  refine List.Perm.eq_of_pairwise ?_ (pairwise_sortByRank _) (pairwise_sortByRank _)
    (sortByRank_perm same)
  intro a b member member' before after
  have own : a ∈ results := (stableSort_sortByRank results).perm.mem_iff.1 member
  have own' : b ∈ results' := (stableSort_sortByRank results').perm.mem_iff.1 member'
  exact apart a own b (same.mem_iff.2 own') (ScanResult.precedes_antisymm before after)

/-- Two rankings, of what a scan retains of two lists of reports. -/
structure RankedAlike (r : Retention) (cap : Nat) (raw raw' : List ScanResult) : Prop where
  length : (rank cap (r.discovered raw)).length = (rank cap (r.discovered raw')).length
  sameRank : ∀ (i : Nat) (a a' : ScanResult), (rank cap (r.discovered raw))[i]? = some a →
    (rank cap (r.discovered raw'))[i]? = some a' → a.SameRank a'
  equal : (∀ a ∈ r.discovered raw, ∀ b ∈ r.discovered raw, a.SameRank b → a = b) →
    rank cap (r.discovered raw) = rank cap (r.discovered raw')

/-- The order in which a driver reports its results does not show in the ranking, but for which of
the results of one rank stands where. -/
theorem ranking_of_permuted {raw raw' : List ScanResult} (same : raw.Perm raw') (r : Retention)
    (cap : Nat) : RankedAlike r cap raw raw' := by
  have retained : (r.discovered raw).Perm (r.discovered raw') := same.filter r.retains
  -- Equal views have equal lengths and agree at each position, also where the cap cuts through
  -- ties.
  have view := map_rankView_rank retained cap
  refine ⟨?_, fun i a a' at? at?' => ?_, fun apart => rank_eq_of_perm retained apart cap⟩
  · have lengths := congrArg List.length view
    rw [List.length_map, List.length_map] at lengths
    exact lengths
  · have here := congrArg (·[i]?) view
    simp only [List.getElem?_map, at?, at?', Option.map_some, Option.some.injEq] at here
    exact ScanResult.rankView_eq_iff.1 here

/-- One access point, seen at a time. -/
def sightingAt (timestampUs : UInt64) : ScanResult :=
  ⟨"café", "02:00:00:00:00:01", -50, 2412, timestampUs, "", []⟩

/-- A stronger access point on another frequency. -/
def strongSighting : ScanResult := ⟨"Ω", "02:00:00:00:00:02", -40, 5180, 7, "", []⟩

/-- Two sightings of the same access point are cut off between: which one stays depends on the order
of the reports, and their rank does not. -/
theorem ranking_of_permuted_cut :
    let r : Retention := ⟨5, .ofList [2412, 5180], true⟩
    let raw := [sightingAt 6, sightingAt 4, strongSighting, sightingAt 9]
    raw.Perm raw.reverse ∧ RankedAlike r 2 raw raw.reverse ∧
      rank 2 (r.discovered raw) = [strongSighting, sightingAt 6] ∧
      rank 2 (r.discovered raw.reverse) = [strongSighting, sightingAt 9] := by
  refine ⟨(List.reverse_perm _).symm, ranking_of_permuted (List.reverse_perm _).symm _ _, ?_, ?_⟩
  · cbv
  · cbv

end WifiScan

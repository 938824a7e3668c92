import WifiScan.Scan.Ranking

/-!
# Ranked results

A ranking is in order, is no longer than its cap, and holds only what was retained. The ranking
order is lexicographic, so that it inherits its laws from the orders of the fields.
-/
namespace WifiScan

theorem ScanResult.compareRank_eq : compareRank =
    compareLex (fun a b => compareOn rssi b a)
      (compareLex (compareOn bssid) (compareLex (compareOn frequency) (compareOn ssid))) := rfl

instance : Std.TransCmp ScanResult.compareRank := by
  have strength : Std.TransCmp fun a b : ScanResult => compareOn ScanResult.rssi b a :=
    Std.TransCmp.opposite
  rw [ScanResult.compareRank_eq]
  infer_instance

/-- Whether a result may stand before another in a ranking. -/
def ScanResult.Precedes (a b : ScanResult) : Prop := (a.compareRank b).isLE

/-- One of two results may stand before the other. -/
theorem ScanResult.isLE_total (a b : ScanResult) :
    ((a.compareRank b).isLE || (b.compareRank a).isLE) = true := by
  have swap : a.compareRank b = (b.compareRank a).swap := Std.OrientedCmp.eq_swap
  rw [swap]
  cases b.compareRank a <;> rfl

/-- All results by rank. -/
def sortByRank (results : List ScanResult) : List ScanResult :=
  results.mergeSort fun a b => (a.compareRank b).isLE

theorem rank_eq (cap : Nat) (results : List ScanResult) :
    rank cap results = (sortByRank results).take cap := rfl

theorem pairwise_sortByRank (results : List ScanResult) :
    (sortByRank results).Pairwise ScanResult.Precedes :=
  List.pairwise_mergeSort (fun _ _ _ => Std.TransCmp.isLE_trans) ScanResult.isLE_total results

theorem pairwise_rank (cap : Nat) (results : List ScanResult) :
    (rank cap results).Pairwise ScanResult.Precedes :=
  (pairwise_sortByRank results).sublist (List.take_sublist ..)

theorem length_rank_le (cap : Nat) (results : List ScanResult) :
    (rank cap results).length ≤ cap :=
  List.length_take_le ..

theorem mem_of_mem_rank {cap : Nat} {results : List ScanResult} {result : ScanResult}
    (ranked : result ∈ rank cap results) : result ∈ results :=
  List.mem_mergeSort.1 (List.mem_of_mem_take ranked)

/-- No retained result was captured before the start. -/
theorem Retention.start_le {r : Retention} {raw : List ScanResult} {result : ScanResult}
    (retained : result ∈ r.discovered raw) : r.startTimeUs ≤ result.timestampUs := by
  have passes := (List.mem_filter.1 retained).2
  simp only [retains, Bool.and_eq_true, decide_eq_true_eq] at passes
  exact passes.1

end WifiScan

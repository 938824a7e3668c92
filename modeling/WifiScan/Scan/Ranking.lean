import WifiScan.FrequencyTable
import WifiScan.Scan.Result

/-!
# Retention and ranking

Which of a driver's raw results belong to a scan, and the ranked list that the scan keeps.
-/
namespace WifiScan

/-- Which raw results a scan retains. -/
structure Retention where
  /-- Results captured before this time are stale. -/
  startTimeUs : UInt64
  validFrequencies : FrequencySet
  /-- Whether results at other than valid frequencies are dropped. -/
  onlyValid : Bool
  deriving DecidableEq

namespace Retention

def retains (r : Retention) (result : ScanResult) : Bool :=
  r.startTimeUs ≤ result.timestampUs && (!r.onlyValid || result.frequency ∈ r.validFrequencies)

/-- The retained results, in the order in which the driver gave them. -/
def discovered (r : Retention) (raw : List ScanResult) : List ScanResult := raw.filter r.retains

end Retention

/-- The first `cap` results by rank. Results of equal rank keep their order. -/
def rank (cap : Nat) (results : List ScanResult) : List ScanResult :=
  (results.mergeSort fun a b => (a.compareRank b).isLE).take cap

end WifiScan

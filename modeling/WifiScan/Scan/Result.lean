import WifiScan.ChannelError

/-!
# Scan results

One observation of an access point, and the ranked observations of one completed scan. Results are
ranked by signal strength, the strongest first; equal strengths are ranked by address, frequency
and name.
-/
namespace WifiScan

structure ScanResult where
  ssid : String
  bssid : String
  /-- Signal strength in dBm. -/
  rssi : Int32
  frequency : Frequency
  /-- When it was captured, in microseconds. -/
  timestampUs : UInt64
  capabilities : String
  informationElements : List UInt8
  deriving DecidableEq, Repr

/-- The ranking order: stronger first, then by address, frequency and name. -/
def ScanResult.compareRank (a b : ScanResult) : Ordering :=
  (compare b.rssi a.rssi).then <| (compare a.bssid b.bssid).then <|
    (compare a.frequency b.frequency).then (compare a.ssid b.ssid)

/-- The ranked results of one completed scan. -/
structure ScanData where
  /-- How many scans of the class have completed, this one included, modulo 2^32. -/
  id : UInt32
  results : List ScanResult
  deriving DecidableEq, Repr

namespace ScanData

def empty : ScanData := ⟨0, []⟩

/-- The first result, which is the strongest of a ranked scan. -/
def strongest? (d : ScanData) : Option ScanResult := d.results.head?

end ScanData

end WifiScan

import WifiScan.Hex
import WifiScan.Scan.Result

/-!
# Fixture results

Made-up results, one for each frequency of a list, that a seed keeps apart from those of other
seeds.
-/
namespace WifiScan

/-- A locally administered address that holds the low 16 bits of the seed and of the index. -/
def fixtureAddress (seed index : UInt32) : String :=
  let octet (n : UInt32) := ':' :: Hex.lower 2 (n &&& 0xff).toNat
  "02:00" ++ String.ofList (octet (seed >>> 8) ++ octet seed ++ octet (index >>> 8) ++ octet index)

/-- A signal strength from -90 to -30 dBm. -/
def fixtureStrength (seed index : UInt32) : Int32 :=
  -30 - Int32.ofNat ((seed * 31 + index * 17) % 61).toNat

def fixtureResult (seed : UInt32) (timestampUs : UInt64) (frequency : Frequency) (index : UInt32) :
    ScanResult where
  ssid := "TEST AP " ++ toString seed.toNat ++ "-" ++ toString index.toNat
  bssid := fixtureAddress seed index
  rssi := fixtureStrength seed index
  frequency := frequency
  timestampUs := timestampUs
  capabilities := ""
  informationElements := []

/-- One result for each frequency, in order. -/
def fixtureResults (seed : UInt32) (timestampUs : UInt64) (frequencies : List Frequency) :
    List ScanResult :=
  frequencies.zipIdx.map fun (f, i) => fixtureResult seed timestampUs f (.ofNat i)

end WifiScan

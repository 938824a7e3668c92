import WifiScan.FrequencyTable
import WifiScan.Scan.Class
import WifiScan.Scan.Settings
import WifiScan.Scan.Result

/-!
# Drivers

What the scan engine needs of a radio. A driver takes or refuses a command at once; that a scan has
ended comes later, as an event.
-/
namespace WifiScan

/-- A radio driver with states `σ`. -/
class ScanDriver (σ : Type) where
  interface : σ → String
  /-- Commands a scan, and says whether the driver takes it. -/
  command : σ → ScanClass → FrequencySet → NetworkIds → Bool × σ
  /-- The raw results of the last scan of a class, at a reading of the clock. -/
  results : σ → ScanClass → UInt64 → List ScanResult × σ

inductive DriverEventKind where
  | resultsAvailable
  | scanFailed
  deriving DecidableEq, Repr

/-- What a driver says about the scan of a class. -/
structure DriverEvent where
  interface : String
  scanClass : ScanClass
  kind : DriverEventKind
  deriving DecidableEq, Repr

end WifiScan

import WifiScan.Simulation.Radio
import WifiScan.Engine.Request

/-!
# Configuration

Everything that a settings file can set: the engine, the simulated driver and radio, and what a scan
asks for by default.
-/
namespace WifiScan

/-- What a scan asks for unless the caller says otherwise. -/
structure ScanDefaults where
  band : Band
  basePeriodMs : UInt32
  maxApPerScan : UInt64
  reportFullResults : Bool
  deriving DecidableEq, Repr

def ScanDefaults.standard : ScanDefaults := ⟨.both, 10000, 32, false⟩

structure Configuration where
  engine : EngineConfig
  driver : VirtualDriverConfig
  radio : RadioConfig
  scan : ScanDefaults
  deriving DecidableEq

/-- The configuration without a settings file. -/
def Configuration.standard : Configuration := ⟨.standard, .standard, .standard, .standard⟩

end WifiScan

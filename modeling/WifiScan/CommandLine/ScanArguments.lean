import WifiScan.Format.Configuration
import WifiScan.Simulation.Session

/-!
# The arguments of a scan

What the arguments of the `scan` command say: what to ask for, how the simulated radio behaves, and
how the results are shown. What they leave open is as configured.
-/
namespace WifiScan.CommandLine

structure ScanArguments where
  band : Option Band
  /-- Explicit frequencies, in place of a band if there are any. -/
  channels : List Frequency
  background : Bool
  maxApPerScan : Option UInt64
  hidden : List Int32
  fullResults : Bool
  filterInvalid : Bool
  timeoutMs : Option UInt64
  latencyMs : Option UInt64
  outcome : Option ScanOutcome
  /-- Whether the simulated driver refuses the command. -/
  reject : Bool
  json : Bool
  deriving DecidableEq, Repr

namespace ScanArguments

def empty : ScanArguments :=
  ⟨none, [], false, none, [], false, false, none, none, none, false, false⟩

def scanClass (a : ScanArguments) : ScanClass := if a.background then .background else .single

/-- The channels asked for: those given, or else a band. -/
def bucketChannels (a : ScanArguments) (defaults : ScanDefaults) : BucketChannels :=
  if a.channels.isEmpty then .band (a.band.getD defaults.band) else .channels a.channels

def reportEvents (a : ScanArguments) (defaults : ScanDefaults) : ReportEvents :=
  if a.fullResults || defaults.reportFullResults then .afterEachScan ||| .fullScanResult
  else .afterEachScan

def settings (a : ScanArguments) (defaults : ScanDefaults) : ScanSettings where
  basePeriodMs := defaults.basePeriodMs
  maxApPerScan := a.maxApPerScan.getD defaults.maxApPerScan
  buckets := [⟨defaults.basePeriodMs, a.reportEvents defaults, a.bucketChannels defaults⟩]
  hiddenNetworkIds := .ofList a.hidden

/-- The engine's configuration with what the arguments say in its place. -/
def overrideEngine (a : ScanArguments) (engine : EngineConfig) : EngineConfig :=
  { engine with
    scanTimeoutMs := a.timeoutMs.getD engine.scanTimeoutMs
    filterInvalidFrequencies := a.filterInvalid || engine.filterInvalidFrequencies }

/-- The radio's configuration with what the arguments say in its place. An outcome replaces the
script as well. -/
def overrideRadio (a : ScanArguments) (radio : RadioConfig) : RadioConfig :=
  { radio with
    latencyMs := a.latencyMs.getD radio.latencyMs
    scriptedOutcomes := if a.outcome.isSome then [] else radio.scriptedOutcomes
    defaultOutcome := a.outcome.getD radio.defaultOutcome }

/-- The configuration with what the arguments say in its place. The radio reports on the driver's
interface. -/
def override (a : ScanArguments) (config : Configuration) : Configuration :=
  { config with
    engine := a.overrideEngine config.engine
    radio := { a.overrideRadio config.radio with interface := config.driver.interface } }

def run [Wait] (a : ScanArguments) (clock : Nat → UInt64) (config : Configuration) :
    Except ScanError ScanReport :=
  (a.override config).scanOnce clock (!a.reject) a.scanClass (a.settings config.scan)

end ScanArguments

end WifiScan.CommandLine

import WifiScan.Configuration
import WifiScan.Simulation.Station

/-!
# One scan from start to end

A scan at a new station, followed in virtual time until it has ended. No request lasts longer than
its timeout, so it is enough to let that much time pass.
-/
namespace WifiScan

structure ScanReport where
  events : List ScanEvent
  /-- The latest results of the class when the scan had ended. -/
  data : ScanData
  deriving DecidableEq, Repr

def ScanReport.status? (r : ScanReport) : Option ScanStatus := r.events.findSome? ScanEvent.status?

/-- The single results that were reported, each with its bucket. -/
def ScanReport.reported (r : ScanReport) : List (ScanResult × Nat) :=
  r.events.filterMap fun
    | .fullResult result bucket => some (result, bucket)
    | .status _ => none

/-- Scans once with a driver that accepts or refuses, unless the request is not admitted. -/
def Configuration.scanOnce [Wait] (config : Configuration) (clock : Nat → UInt64) (accepting : Bool)
    (c : ScanClass) (settings : ScanSettings) : Except ScanError ScanReport :=
  let driver := (VirtualDriver.initial config.driver).setAccepting accepting
  let station := Station.initial config.engine driver (some config.radio)
  match station.call clock [.start c (some settings) (some "caller")] with
  | (_, _, .error e :: _) => .error e
  | (station, effects, _) =>
    let (station, more) := station.sleep clock config.engine.scanTimeoutMs
    .ok ⟨((effects ++ more).filterMap Effect.told?).map Prod.snd,
      station.scanner.engine.latest c⟩

end WifiScan

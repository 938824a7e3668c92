import WifiScan.Simulation.Driver
import WifiScan.Wait

/-!
# The simulated radio

A radio serves the scans that the driver took one after another, in the order in which they were
issued. Each takes a full latency, at the end of which the radio reports the outcome or stays
silent.
-/
namespace WifiScan

inductive ScanOutcome where
  | complete
  | fail
  | silent
  deriving DecidableEq, Repr, Inhabited

structure RadioConfig where
  interface : String
  latencyMs : UInt64
  /-- The outcomes of the next scans. -/
  scriptedOutcomes : List ScanOutcome
  defaultOutcome : ScanOutcome
  deriving DecidableEq, Repr

/-- Every scan on `wlan0` completes after 50 ms. -/
def RadioConfig.standard : RadioConfig := ⟨"wlan0", 50, [], .complete⟩

/-- A scan that the radio is busy with. -/
structure RadioService where
  scanClass : ScanClass
  outcome : ScanOutcome
  dueAt : Nat
  deriving DecidableEq, Repr

structure Radio where
  interface : String
  latencyMs : UInt64
  /-- The outcomes not used yet. -/
  script : List ScanOutcome
  defaultOutcome : ScanOutcome
  serving : Option RadioService
  waiting : List IssuedScan
  /-- Whether the radio has stopped for good. -/
  done : Bool
  deriving DecidableEq

namespace Radio

def initial (config : RadioConfig) : Radio :=
  ⟨config.interface, config.latencyMs, config.scriptedOutcomes, config.defaultOutcome, none, [],
    false⟩

def enqueue (r : Radio) (scans : List IssuedScan) : Radio :=
  { r with waiting := r.waiting ++ scans }

/-- Starts to serve the next scan, if the radio is free and a scan waits. The scan's outcome is the
next of the script. -/
def begin? [Wait] (r : Radio) (now : Nat) : Radio :=
  match r.serving, r.waiting with
  | none, scan :: rest =>
    { r with
      serving := some ⟨scan.scanClass, r.script.headD r.defaultOutcome, Wait.finish now r.latencyMs⟩
      script := r.script.tail
      waiting := rest }
  | _, _ => r

/-- What the radio reports at the end of a scan. -/
def report? (r : Radio) (s : RadioService) : Option DriverEvent :=
  match s.outcome with
  | .complete => some ⟨r.interface, s.scanClass, .resultsAvailable⟩
  | .fail => some ⟨r.interface, s.scanClass, .scanFailed⟩
  | .silent => none

def release (r : Radio) : Radio := { r with serving := none }

/-- The radio stopped for good; what waits is never served. -/
def stop (r : Radio) : Radio := { r with serving := none, waiting := [], done := true }

/-- How many scans the radio has still to end. -/
def load (r : Radio) : Nat := r.serving.toList.length + r.waiting.length

end Radio

end WifiScan

import WifiScan.Configuration
import WifiScan.Format.Scan

/-!
# The settings file

Every field of a configuration may be left out. A field that is left out has the value that the
standard configuration has in its place, whatever else the record around it gives.
-/
namespace WifiScan

open Json

def EngineConfig.fields : Fields (UInt64 × Bool × ValidityPolicy × FrequencyTable × Unit) :=
  .field "scan_timeout_ms" .uint64 (some standard.scanTimeoutMs) <|
  .field "filter_invalid_frequencies" .bool (some standard.filterInvalidFrequencies) <|
  .field "valid_frequency_policy" ValidityPolicy.codec (some standard.validityPolicy) <|
  .field "frequency_table" FrequencyTable.codec (some standard.frequencyTable) .done

def EngineConfig.codec : Codec EngineConfig :=
  .record fields (fun (timeout, only, policy, table, _) => ⟨timeout, only, policy, table⟩)
    fun c =>
      (c.scanTimeoutMs, c.filterInvalidFrequencies, c.validityPolicy, c.frequencyTable, ())

/-- Unlike the other fields of an access point, its capabilities may be left out. -/
def VirtualAccessPoint.fields : Fields (String × String × Frequency × Int32 × String × Unit) :=
  .field "ssid" .text none <|
  .field "bssid" .text none <|
  .field "frequency" .uint32 none <|
  .field "rssi" .int32 none <|
  .field "capabilities" .text (some "") .done

def VirtualAccessPoint.codec : Codec VirtualAccessPoint :=
  .record fields
    (fun (ssid, bssid, frequency, rssi, capabilities, _) =>
      ⟨ssid, bssid, frequency, rssi, capabilities⟩)
    fun ap => (ap.ssid, ap.bssid, ap.frequency, ap.rssi, ap.capabilities, ())

def VirtualDriverConfig.fields : Fields (String × List VirtualAccessPoint × Unit) :=
  .field "interface" .text (some standard.interface) <|
  .field "access_points" (.list VirtualAccessPoint.codec) (some standard.accessPoints) .done

def VirtualDriverConfig.codec : Codec VirtualDriverConfig :=
  .record fields (fun (interface, aps, _) => ⟨interface, aps⟩)
    fun c => (c.interface, c.accessPoints, ())

/-- The name of an outcome in files and on the command line. -/
def ScanOutcome.fileName : ScanOutcome → String
  | complete => "complete"
  | fail => "fail"
  | silent => "silent"

def ScanOutcome.all : List ScanOutcome := [complete, fail, silent]

def ScanOutcome.codec : Codec ScanOutcome := .names fileName all

def RadioConfig.fields : Fields (String × UInt64 × List ScanOutcome × ScanOutcome × Unit) :=
  .field "interface" .text (some standard.interface) <|
  .field "latency_ms" .uint64 (some standard.latencyMs) <|
  .field "scripted_outcomes" (.list ScanOutcome.codec) (some standard.scriptedOutcomes) <|
  .field "default_outcome" ScanOutcome.codec (some standard.defaultOutcome) .done

def RadioConfig.codec : Codec RadioConfig :=
  .record fields (fun (interface, latency, script, outcome, _) =>
      ⟨interface, latency, script, outcome⟩)
    fun c => (c.interface, c.latencyMs, c.scriptedOutcomes, c.defaultOutcome, ())

def ScanDefaults.fields : Fields (Band × UInt32 × UInt64 × Bool × Unit) :=
  .field "band" Band.codec (some standard.band) <|
  .field "base_period_ms" .uint32 (some standard.basePeriodMs) <|
  .field "max_ap_per_scan" .uint64 (some standard.maxApPerScan) <|
  .field "report_full_results" .bool (some standard.reportFullResults) .done

def ScanDefaults.codec : Codec ScanDefaults :=
  .record fields (fun (band, period, cap, full, _) => ⟨band, period, cap, full⟩)
    fun d => (d.band, d.basePeriodMs, d.maxApPerScan, d.reportFullResults, ())

def Configuration.fields :
    Fields (EngineConfig × VirtualDriverConfig × RadioConfig × ScanDefaults × Unit) :=
  .field "engine" EngineConfig.codec (some standard.engine) <|
  .field "driver" VirtualDriverConfig.codec (some standard.driver) <|
  .field "driver_task" RadioConfig.codec (some standard.radio) <|
  .field "scan" ScanDefaults.codec (some standard.scan) .done

def Configuration.codec : Codec Configuration :=
  .record fields (fun (engine, driver, radio, scan, _) => ⟨engine, driver, radio, scan⟩)
    fun c => (c.engine, c.driver, c.radio, c.scan, ())

end WifiScan

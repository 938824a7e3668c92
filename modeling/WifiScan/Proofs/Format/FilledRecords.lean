import WifiScan.Proofs.Format.Codecs

/-!
# Formats by the fields that are given

## Main result

`formats_by_fields`: each record of the formats is decoded from the fields that are given, in any
order and among any others, and has its fallbacks in the place of the rest. The fallbacks of a
configuration and of its parts are those of the standard one.

## Proof strategy

A format is put together from lawful codecs, each of which makes of a well-formed value what the
value is by itself. So its fields are filled one by one, those of a record within a record by the
rules of the inner one.
-/
namespace WifiScan

open Json

namespace FrequencyTable

/-- The table of three sets, which are refused if they share a frequency. -/
def build : FrequencySet × FrequencySet × FrequencySet × Unit → Except Fault FrequencyTable :=
  fun (a, b, c, _) => (ofSets a b c).mapError fun e => .refused e.message

theorem codec_byFields : codec.ByFields fields build := by
  apply Codec.Gathers.byFields _ fields_lawful.distinct
  exact (Codec.record_gathers fields_lawful.parts.contained fields_lawful.distinct _ _).refine _ _

end FrequencyTable

/-- A record is decoded by its fields, which have these fallbacks. -/
structure Json.Codec.Fills {α ρ : Type} (c : Codec α) (fs : Fields ρ) (build : ρ → Except Fault α)
    (fallbacks : fs.Draft) : Prop where
  fallbacks : fs.fallbacks = fallbacks
  byFields : c.ByFields fs build

/-- A list of values is decoded value by value, with the fault of the first that is refused. -/
def Json.Codec.OneByOne {α : Type} (c : Codec α) : Prop :=
  ∀ {w cs w' : List Char} {vs : List (List Char)}, Blank w → ItemsText true vs cs →
    (∀ v ∈ vs, ValueText v) → Blank w' →
    (Codec.list c).valueOf (w ++ ('[' :: cs ++ w')) = vs.mapM c.valueOf

theorem Json.Codec.oneByOne {α : Type} {c : Codec α} (contained : Contained c.read) :
    c.OneByOne := by
  intro w cs w' vs before layout items after
  exact (list_yields contained layout items).valueOf before after

/-- All records of the formats are decoded by the fields that are given, and so are those within
other records and within lists. -/
structure FormatsByFields : Prop where
  configuration : Configuration.codec.Fills Configuration.fields
    (fun (engine, driver, radio, scan, _) => .ok ⟨engine, driver, radio, scan⟩)
    (Configuration.fields.full
      (let s := Configuration.standard
      (s.engine, s.driver, s.radio, s.scan, ())))
  engine : EngineConfig.codec.Fills EngineConfig.fields
    (fun (timeout, only, policy, table, _) => .ok ⟨timeout, only, policy, table⟩)
    (EngineConfig.fields.full
      (let s := EngineConfig.standard
      (s.scanTimeoutMs, s.filterInvalidFrequencies, s.validityPolicy, s.frequencyTable, ())))
  driver : VirtualDriverConfig.codec.Fills VirtualDriverConfig.fields
    (fun (interface, aps, _) => .ok ⟨interface, aps⟩)
    (VirtualDriverConfig.fields.full
      (let s := VirtualDriverConfig.standard
      (s.interface, s.accessPoints, ())))
  radio : RadioConfig.codec.Fills RadioConfig.fields
    (fun (interface, latency, script, outcome, _) => .ok ⟨interface, latency, script, outcome⟩)
    (RadioConfig.fields.full
      (let s := RadioConfig.standard
      (s.interface, s.latencyMs, s.scriptedOutcomes, s.defaultOutcome, ())))
  scanDefaults : ScanDefaults.codec.Fills ScanDefaults.fields
    (fun (band, period, cap, full, _) => .ok ⟨band, period, cap, full⟩)
    (ScanDefaults.fields.full
      (let s := ScanDefaults.standard
      (s.band, s.basePeriodMs, s.maxApPerScan, s.reportFullResults, ())))
  scanSettings : ScanSettings.codec.Fills ScanSettings.fields
    (fun (period, cap, buckets, hidden, _) => .ok ⟨period, cap, buckets, hidden⟩)
    (none, none, none, some ∅, ())
  bucketSettings : BucketSettings.codec.Fills BucketSettings.fields
    (fun (period, events, channels, _) => .ok ⟨period, events, channels⟩) (none, none, none, ())
  scanResult : ScanResult.codec.Fills ScanResult.fields
    (fun (ssid, bssid, rssi, frequency, timestamp, capabilities, elements, _) =>
      .ok ⟨ssid, bssid, rssi, frequency, timestamp, capabilities, elements⟩)
    (none, none, none, none, none, some "", some [], ())
  scanData : ScanData.codec.Fills ScanData.fields (fun (id, results, _) => .ok ⟨id, results⟩)
    (none, none, ())
  accessPoint : VirtualAccessPoint.codec.Fills VirtualAccessPoint.fields
    (fun (ssid, bssid, frequency, rssi, capabilities, _) =>
      .ok ⟨ssid, bssid, frequency, rssi, capabilities⟩)
    (none, none, none, none, some "", ())
  table : FrequencyTable.codec.Fills FrequencyTable.fields FrequencyTable.build
    (none, none, none, ())
  accessPoints : VirtualAccessPoint.codec.OneByOne
  buckets : BucketSettings.codec.OneByOne
  results : ScanResult.codec.OneByOne

/-- What is decoded depends on the fields given alone, in every format. -/
theorem formats_by_fields : FormatsByFields where
  configuration := ⟨rfl, Configuration.fields_lawful.record_byFields _ _⟩
  engine := ⟨rfl, EngineConfig.fields_lawful.record_byFields _ _⟩
  driver := ⟨rfl, VirtualDriverConfig.fields_lawful.record_byFields _ _⟩
  radio := ⟨rfl, RadioConfig.fields_lawful.record_byFields _ _⟩
  scanDefaults := ⟨rfl, ScanDefaults.fields_lawful.record_byFields _ _⟩
  scanSettings := ⟨rfl, ScanSettings.fields_lawful.record_byFields _ _⟩
  bucketSettings := ⟨rfl, BucketSettings.fields_lawful.record_byFields _ _⟩
  scanResult := ⟨rfl, ScanResult.fields_lawful.record_byFields _ _⟩
  scanData := ⟨rfl, ScanData.fields_lawful.record_byFields _ _⟩
  accessPoint := ⟨rfl, VirtualAccessPoint.fields_lawful.record_byFields _ _⟩
  table := ⟨rfl, FrequencyTable.codec_byFields⟩
  accessPoints := Codec.oneByOne VirtualAccessPoint.codec_lawful.contained
  buckets := Codec.oneByOne BucketSettings.codec_lawful.contained
  results := Codec.oneByOne ScanResult.codec_lawful.contained

/-- The other fields are those of the standard defaults. -/
example : ScanDefaults.codec.decode "\x7b\"band\": \"Band5Ghz\"\x7d" =
    .ok { ScanDefaults.standard with band := .ghz5 } := by cbv

end WifiScan

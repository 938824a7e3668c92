import WifiScan.Format.Channels
import WifiScan.Scan.Class
import WifiScan.Scan.Settings
import WifiScan.Scan.Result

/-!
# The written forms of requests and results
-/
namespace WifiScan

open Json

def ScanClass.fileName : ScanClass → String
  | single => "Single"
  | background => "Background"

def ScanClass.codec : Codec ScanClass := .names fileName all

def ReportEvents.codec : Codec ReportEvents :=
  Codec.uint32.refine (fun n => .ok ⟨n⟩) bits

def BucketChannels.codec : Codec BucketChannels :=
  .alternatives
    [.holding "band" Band.codec band, .holding "channels" (.list .uint32) channels]
    fun
    | band b => .object [("band", Band.codec.toJson b)]
    | channels fs => .object [("channels", (Codec.list .uint32).toJson fs)]

def BucketSettings.fields : Fields (UInt32 × ReportEvents × BucketChannels × Unit) :=
  .field "period_ms" .uint32 none <|
  .field "report_events" ReportEvents.codec none <|
  .field "channels" BucketChannels.codec none .done

def BucketSettings.codec : Codec BucketSettings :=
  .record fields (fun (period, events, channels, _) => ⟨period, events, channels⟩)
    fun b => (b.periodMs, b.reportEvents, b.channels, ())

/-- A list of identifiers that is read as a set. -/
def NetworkIds.codec : Codec NetworkIds :=
  (Codec.list .int32).refine (fun ids => .ok (.ofList ids)) AscendingSet.toList

def ScanSettings.fields : Fields (UInt32 × UInt64 × List BucketSettings × NetworkIds × Unit) :=
  .field "base_period_ms" .uint32 none <|
  .field "max_ap_per_scan" .uint64 none <|
  .field "buckets" (.list BucketSettings.codec) none <|
  .field "hidden_network_ids" NetworkIds.codec (some ∅) .done

def ScanSettings.codec : Codec ScanSettings :=
  .record fields (fun (period, cap, buckets, hidden, _) => ⟨period, cap, buckets, hidden⟩)
    fun s => (s.basePeriodMs, s.maxApPerScan, s.buckets, s.hiddenNetworkIds, ())

def ScanResult.fields :
    Fields (String × String × Int32 × Frequency × UInt64 × String × List UInt8 × Unit) :=
  .field "ssid" .text none <|
  .field "bssid" .text none <|
  .field "rssi" .int32 none <|
  .field "frequency" .uint32 none <|
  .field "timestamp_us" .uint64 none <|
  .field "capabilities" .text (some "") <|
  .field "information_elements" (.list .uint8) (some []) .done

def ScanResult.codec : Codec ScanResult :=
  .record fields
    (fun (ssid, bssid, rssi, frequency, timestamp, capabilities, elements, _) =>
      ⟨ssid, bssid, rssi, frequency, timestamp, capabilities, elements⟩)
    fun r =>
      (r.ssid, r.bssid, r.rssi, r.frequency, r.timestampUs, r.capabilities, r.informationElements,
        ())

def ScanData.fields : Fields (UInt32 × List ScanResult × Unit) :=
  .field "id" .uint32 none <|
  .field "results" (.list ScanResult.codec) none .done

def ScanData.codec : Codec ScanData :=
  .record fields (fun (id, results, _) => ⟨id, results⟩) fun d => (d.id, d.results, ())

end WifiScan

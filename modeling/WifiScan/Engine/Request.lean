import WifiScan.ChannelSelection
import WifiScan.Scan.Class
import WifiScan.Scan.Settings
import WifiScan.Scan.Ranking

/-!
# Requests in flight

A request that was admitted and has not ended: its settings, the frequencies they come to, and the
tag that tells it from the other requests of its class.
-/
namespace WifiScan

structure EngineConfig where
  scanTimeoutMs : UInt64
  /-- Whether results at other than valid frequencies are dropped. -/
  filterInvalidFrequencies : Bool
  validityPolicy : ValidityPolicy
  frequencyTable : FrequencyTable
  deriving DecidableEq

/-- Requests time out after fifteen seconds; no result is dropped for its frequency. -/
def EngineConfig.standard : EngineConfig := ⟨15000, false, .matchScan, .standard⟩

/-- Tells the requests of a class apart. -/
structure TimerTag where
  scanClass : ScanClass
  epoch : UInt64
  deriving DecidableEq, Repr

/-- Who is told about a request. -/
abbrev Handler := String

namespace ChannelSelection

def addBucket (s : ChannelSelection) (b : BucketSettings) : ChannelSelection :=
  match b.channels with
  | .band band => s.addBand band
  | .channels fs => s.addChannels fs

end ChannelSelection

/-- The frequencies that the buckets of a request come to. -/
structure ResolvedFrequencies where
  scan : FrequencySet
  valid : FrequencySet
  perBucket : List FrequencySet
  deriving DecidableEq

/-- The frequencies of all buckets together and of each by itself. -/
def EngineConfig.resolve (config : EngineConfig) (buckets : List BucketSettings) :
    ResolvedFrequencies :=
  let nothing := ChannelSelection.empty config.frequencyTable config.validityPolicy
  let everything := buckets.foldl ChannelSelection.addBucket nothing
  { scan := everything.scanFrequencies
    valid := everything.validFrequencies
    perBucket := buckets.map fun b => (nothing.addBucket b).scanFrequencies }

structure Request where
  scanClass : ScanClass
  epoch : UInt64
  settings : ScanSettings
  handler : Handler
  /-- The clock just before the driver was given its command, in microseconds. -/
  startTimeUs : UInt64
  scanFrequencies : FrequencySet
  validFrequencies : FrequencySet
  /-- The frequencies of each bucket, in the order of the buckets. -/
  bucketFrequencies : List FrequencySet
  deriving DecidableEq

namespace Request

def tag (r : Request) : TimerTag := ⟨r.scanClass, r.epoch⟩

/-- Which raw results the request retains. -/
def retention (r : Request) (config : EngineConfig) : Retention :=
  ⟨r.startTimeUs, r.validFrequencies, config.filterInvalidFrequencies⟩

/-- The buckets that want every result, each with its frequencies and its index. -/
def fullResultBuckets (r : Request) : List (FrequencySet × Nat) :=
  ((r.settings.buckets.zip r.bucketFrequencies).zipIdx.filter
    fun ((b, _), _) => b.reportEvents.wantsFullResults).map fun ((_, fs), i) => (fs, i)

/-- The bucket to report a result of frequency `f` for: the first one of those that want every
result to scan `f`, or else the first one of them. -/
def fullResultBucket? (r : Request) (f : Frequency) : Option Nat :=
  ((r.fullResultBuckets.find? fun (fs, _) => f ∈ fs).or r.fullResultBuckets.head?).map Prod.snd

end Request

end WifiScan

import WifiScan.Band
import WifiScan.AscendingSet
import WifiScan.Scan.Error

/-!
# Scan settings

What a caller asks for: buckets of channels with their report modes, a cap on the results kept, and
the hidden networks to probe. `check` names the first thing wrong with a request.
-/
namespace WifiScan

/-- When and what a bucket reports, as a set of bits. -/
structure ReportEvents where
  bits : UInt32
  deriving DecidableEq, Repr, Inhabited

namespace ReportEvents

def afterBufferFull : ReportEvents := ⟨0⟩
def afterEachScan : ReportEvents := ⟨1⟩
def fullScanResult : ReportEvents := ⟨2⟩
def noBatch : ReportEvents := ⟨4⟩

/-- Whether all bits of `other` are set. -/
def includes (e other : ReportEvents) : Bool := e.bits &&& other.bits = other.bits

def union (a b : ReportEvents) : ReportEvents := ⟨a.bits ||| b.bits⟩

instance : OrOp ReportEvents := ⟨union⟩

/-- Whether every result is to be reported as it is found. -/
def wantsFullResults (e : ReportEvents) : Bool := e.includes fullScanResult

end ReportEvents

inductive BucketChannels where
  | band (band : Band)
  | channels (frequencies : List Frequency)
  deriving DecidableEq, Repr

structure BucketSettings where
  periodMs : UInt32
  reportEvents : ReportEvents
  channels : BucketChannels
  deriving DecidableEq, Repr

abbrev NetworkIds := AscendingSet Int32

structure ScanSettings where
  basePeriodMs : UInt32
  /-- How many results a scan keeps at most. -/
  maxApPerScan : UInt64
  buckets : List BucketSettings
  hiddenNetworkIds : NetworkIds
  deriving DecidableEq

namespace BucketSettings

/-- What is wrong with the bucket at an index. -/
def fault? (b : BucketSettings) (index : Nat) : Option RequestFault :=
  match b.channels with
  | .band .unspecified => some (.bucketWithoutBand index)
  | .channels [] => some (.bucketWithoutChannels index)
  | _ => none

end BucketSettings

namespace ScanSettings

def empty : ScanSettings := ⟨0, 0, [], ∅⟩

def withBasePeriod (s : ScanSettings) (ms : UInt32) : ScanSettings :=
  { s with basePeriodMs := ms }

def withMaxApPerScan (s : ScanSettings) (n : UInt64) : ScanSettings :=
  { s with maxApPerScan := n }

def withHiddenNetworkIds (s : ScanSettings) (ids : List Int32) : ScanSettings :=
  { s with hiddenNetworkIds := .ofList ids }

def addBucket (s : ScanSettings) (b : BucketSettings) : ScanSettings :=
  { s with buckets := s.buckets ++ [b] }

/-- The first thing wrong with a request: no buckets, then a cap of zero, then the first bucket
without channels. -/
def fault? (s : ScanSettings) : Option RequestFault :=
  if s.buckets = [] then some .noBuckets
  else if s.maxApPerScan = 0 then some .zeroCap
  else s.buckets.zipIdx.findSome? fun (b, i) => b.fault? i

def check (s : ScanSettings) : Except ScanError Unit :=
  match s.fault? with
  | some fault => .error (.invalidRequest fault)
  | none => .ok ()

/-- Whether some bucket wants every result reported. -/
def wantsFullResults (s : ScanSettings) : Bool :=
  s.buckets.any (·.reportEvents.wantsFullResults)

end ScanSettings

end WifiScan

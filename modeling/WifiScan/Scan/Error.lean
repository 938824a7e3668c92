import WifiScan.Scan.Class

/-!
# Scan errors

Why a request is not admitted, and why an admitted request fails.
-/
namespace WifiScan

inductive RequestFault where
  | missingSettings
  | missingHandler
  | noBuckets
  | zeroCap
  | bucketWithoutBand (index : Nat)
  | bucketWithoutChannels (index : Nat)
  deriving DecidableEq, Repr

def RequestFault.message : RequestFault → String
  | missingSettings => "missing settings"
  | missingHandler => "missing event handler"
  | noBuckets => "no buckets"
  | zeroCap => "max_ap_per_scan must be positive"
  | bucketWithoutBand i => "bucket " ++ toString i ++ " has no band"
  | bucketWithoutChannels i => "bucket " ++ toString i ++ " has no channels"

inductive ScanError where
  | invalidRequest (fault : RequestFault)
  /-- The class has a request in flight already. -/
  | busy (scanClass : ScanClass)
  | unavailable
  deriving DecidableEq, Repr

def ScanError.message : ScanError → String
  | invalidRequest fault => "invalid scan request: " ++ fault.message
  | busy c => c.name ++ " scan already in progress"
  | unavailable => "scan actor is not running"

/-- Why an admitted request ended without results. -/
inductive FailureReason where
  | driverRejected
  | driverFailed
  | timedOut
  | scannerStopped
  deriving DecidableEq, Repr

def FailureReason.message : FailureReason → String
  | driverRejected => "driver rejected scan"
  | driverFailed => "driver reported scan failure"
  | timedOut => "scan timed out"
  | scannerStopped => "scanner stopped"

end WifiScan

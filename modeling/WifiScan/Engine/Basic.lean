import WifiScan.Engine.Driver
import WifiScan.Engine.Effect

/-!
# The scan engine

The engine admits requests, one of each class at a time, and ends each of them once: by the driver's
word, by its timer, or because the scanner stops. Each operation returns the engine after it and its
effects in order; time enters only as readings of the clock.
-/
namespace WifiScan

structure Lane where
  /-- The number of the last admitted request. -/
  epoch : UInt64
  inFlight : Option Request
  /-- The results of the last completed request. -/
  latest : ScanData
  deriving DecidableEq

def Lane.initial : Lane := ⟨0, none, .empty⟩

/-- An engine over a driver with states `σ`. -/
structure Engine (σ : Type) where
  config : EngineConfig
  driver : σ
  lanes : PerClass Lane

namespace Engine

variable {σ : Type}

def initial (config : EngineConfig) (driver : σ) : Engine σ := ⟨config, driver, .both .initial⟩

def inFlight? (e : Engine σ) (c : ScanClass) : Option Request := (e.lanes.get c).inFlight

def isScanning (e : Engine σ) (c : ScanClass) : Bool := (e.inFlight? c).isSome

def latest (e : Engine σ) (c : ScanClass) : ScanData := (e.lanes.get c).latest

/-- The request that settings make, were it admitted now. -/
def makeRequest (e : Engine σ) (now : UInt64) (c : ScanClass) (settings : ScanSettings)
    (handler : Handler) : Request :=
  let resolved := e.config.resolve settings.buckets
  { scanClass := c
    epoch := (e.lanes.get c).epoch + 1
    settings
    handler
    startTimeUs := now
    scanFrequencies := resolved.scan
    validFrequencies := resolved.valid
    bucketFrequencies := resolved.perBucket }

variable [ScanDriver σ]

/-- Gives an admitted request to the driver. A request that the driver refuses uses up its number
and fails at once. -/
def launch (e : Engine σ) (r : Request) : Engine σ × List Effect :=
  -- The number is used up whatever the driver says.
  let lane := { e.lanes.get r.scanClass with epoch := r.epoch }
  let (accepted, driver) :=
    ScanDriver.command e.driver r.scanClass r.scanFrequencies r.settings.hiddenNetworkIds
  let command :=
    Effect.command r.scanClass r.scanFrequencies r.settings.hiddenNetworkIds accepted
  if accepted then
    ({ e with driver, lanes := e.lanes.set r.scanClass { lane with inFlight := some r } },
      [command, .arm r.tag e.config.scanTimeoutMs])
  else
    ({ e with driver, lanes := e.lanes.set r.scanClass lane },
      [command, .finish r.tag r.handler (.failed .driverRejected)])

/-- Admits a request of a class. It is refused when its settings or its handler are missing, when
its settings have a fault, and when the class has a request in flight. -/
def start (e : Engine σ) (now : UInt64) (c : ScanClass) (settings : Option ScanSettings)
    (handler : Option Handler) : Except ScanError (Engine σ × List Effect) := do
  let some settings := settings | .error (.invalidRequest .missingSettings)
  let some handler := handler | .error (.invalidRequest .missingHandler)
  settings.check
  if e.isScanning c then .error (.busy c)
  return e.launch (e.makeRequest now c settings handler)

/-- Fails the request in flight of a class, if there is one. -/
def fail (e : Engine σ) (c : ScanClass) (reason : FailureReason) : Engine σ × List Effect :=
  let lane := e.lanes.get c
  match lane.inFlight with
  | none => (e, [])
  | some r =>
    ({ e with lanes := e.lanes.set c { lane with inFlight := none } },
      [.disarm c, .finish r.tag r.handler (.failed reason)])

/-- The reports of single results that a request gets: all that are retained, if some bucket wants
them. -/
def fullReports (r : Request) (discovered : List ScanResult) : List Effect :=
  if r.settings.wantsFullResults then
    discovered.filterMap fun result =>
      (r.fullResultBucket? result.frequency).map (Effect.report r.tag r.handler result)
  else []

/-- Completes the request in flight of a class, if there is one, with the driver's results. -/
def complete (e : Engine σ) (now : UInt64) (c : ScanClass) : Engine σ × List Effect :=
  let lane := e.lanes.get c
  match lane.inFlight with
  | none => (e, [])
  | some r =>
    let (raw, driver) := ScanDriver.results e.driver c now
    let discovered := (r.retention e.config).discovered raw
    let data : ScanData := ⟨lane.latest.id + 1, rank r.settings.maxApPerScan.toNat discovered⟩
    -- Single results are reported before the ranked ones can be asked for.
    ({ e with driver, lanes := e.lanes.set c { lane with inFlight := none, latest := data } },
      [.disarm c, .fetch c raw] ++ fullReports r discovered ++
        [.store c data, .finish r.tag r.handler .completed])

/-- Takes the driver's word about a scan; what another interface says is ignored. -/
def onDriverEvent (e : Engine σ) (now : UInt64) (event : DriverEvent) : Engine σ × List Effect :=
  if event.interface = ScanDriver.interface e.driver then
    -- The event names a class and no request, so it is taken for the request in flight.
    match event.kind with
    | .resultsAvailable => e.complete now event.scanClass
    | .scanFailed => e.fail event.scanClass .driverFailed
  else (e, [])

/-- Ends the request that a timer was armed for, if it is still in flight. -/
def onTimeout (e : Engine σ) (tag : TimerTag) : Engine σ × List Effect :=
  -- A timer that fires late finds no request or the next one.
  if (e.inFlight? tag.scanClass).any (·.epoch = tag.epoch) then e.fail tag.scanClass .timedOut
  else (e, [])

/-- Fails every request in flight, the single scan first. -/
def failAll (e : Engine σ) (reason : FailureReason) : Engine σ × List Effect :=
  ScanClass.all.foldl
    (fun (e, effects) c => let (e', more) := e.fail c reason; (e', effects ++ more)) (e, [])

end Engine

end WifiScan

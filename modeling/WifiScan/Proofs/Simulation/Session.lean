import WifiScan.Proofs.Simulation.LoneRequests
import WifiScan.Simulation.Session

/-!
# How one scan ends

## Main results

`Configuration.scanOnce_refused`: a request with a fault is not admitted.
`Configuration.scanOnce_admitted`: any other request brings results if the driver takes it, the scan
completes, and it takes no longer than the timeout; otherwise it fails.

## Proof strategy

What happens in the call and what happens in the sleep after it is what happens until the timeout
(`Station.call_sleep`). At its start the station has a lone request (`Configuration.lone_opened`),
or none if the driver refuses.
-/
namespace WifiScan

/-- What a caller learns of a scan: how it ended, and the data that it left. -/
def ScanReport.verdict (r : ScanReport) : Option ScanStatus × ScanData := (r.status?, r.data)

namespace Configuration

/-- The station at which a scan starts. -/
def station (config : Configuration) (accepting : Bool) : Station :=
  .initial config.engine ((VirtualDriver.initial config.driver).setAccepting accepting)
    (some config.radio)

/-- The first outcome of the radio. -/
def firstOutcome (config : Configuration) : ScanOutcome :=
  config.radio.scriptedOutcomes.headD config.radio.defaultOutcome

variable (config : Configuration) (clock : Nat → UInt64) (accepting : Bool) (c : ScanClass)
  {settings : ScanSettings}

theorem sound_station (own : config.radio.interface = config.driver.interface) :
    (config.station accepting).Sound config.radio.latencyMs config.engine.scanTimeoutMs
      (.initial config.radio) [] :=
  ⟨Scanner.sound_initial config.engine _, rfl, rfl, rfl, rfl, rfl, rfl, own⟩

/-- The call with which a scan starts. -/
def opening (c : ScanClass) (settings : ScanSettings) : List Command :=
  [.start c (some settings) (some "caller")]

variable [Wait]

/-- A request with a fault is not admitted. -/
theorem scanOnce_refused {fault : RequestFault} (faulty : settings.fault? = some fault) :
    config.scanOnce clock accepting c settings = .error (.invalidRequest fault) := by
  have running : (config.station accepting).scanner.running = true := rfl
  have refused : (config.station accepting).scanner.engine.start (clock 0) c (some settings)
      (some "caller") = .error (.invalidRequest fault) := by
    rw [Engine.start_eq]
    simp only [faulty]
  have answer : ((config.station accepting).call clock (opening c settings)).2.2 =
      [.error (.invalidRequest fault)] := by
    simp only [Station.call, opening, Scanner.call, Scanner.serveAll, Scanner.serve, running,
      if_true]
    have fresh : (config.station accepting).time = 0 := rfl
    simp only [fresh, refused]
  generalize called : (config.station accepting).call clock (opening c settings) = out at answer
  obtain ⟨s, effects, answers⟩ := out
  subst answer
  simp only [station, opening] at called
  simp only [scanOnce, called]

/-- The request that a scan makes. -/
def request (config : Configuration) (c : ScanClass) (settings : ScanSettings) : Request :=
  (config.station accepting).scanner.engine.makeRequest (clock 0) c settings "caller"

/-- What happens when the driver is given the request. -/
def launched (config : Configuration) (c : ScanClass) (settings : ScanSettings) :
    Scanner VirtualDriver × List Effect :=
  (config.station accepting).scanner.after 0
    ((config.station accepting).scanner.engine.launch (config.request clock accepting c settings))

theorem call_opening (faultless : settings.fault? = none) :
    (config.station accepting).scanner.call 0 (clock 0) (opening c settings) =
      ((config.launched clock accepting c settings).1,
        (config.launched clock accepting c settings).2, [.ok .done]) := by
  have running : (config.station accepting).scanner.running = true := rfl
  have admitted : (config.station accepting).scanner.engine.start (clock 0) c (some settings)
      (some "caller") = .ok ((config.station accepting).scanner.engine.launch
        (config.request clock accepting c settings)) :=
    (Engine.start_eq_ok_iff ..).2
      ⟨settings, "caller", rfl, rfl, faultless, by cases c <;> rfl, rfl⟩
  simp only [opening, Scanner.call, Scanner.serveAll, Scanner.serve, running, if_true, admitted,
    List.append_nil]
  rfl

/-- The station once the driver was given the request. -/
def opened (config : Configuration) (c : ScanClass) (settings : ScanSettings) : Station :=
  ⟨0, (config.launched clock accepting c settings).1, some (.initial config.radio), true⟩

/-- An admitted request is followed until its timeout. -/
theorem scanOnce_opened (faultless : settings.fault? = none) {radio : Radio}
    (sound : (config.opened clock accepting c settings).feedRadio.Sound config.radio.latencyMs
      config.engine.scanTimeoutMs radio []) :
    let fed := (config.opened clock accepting c settings).feedRadio
    let (s, log) := Station.elapse clock fed.load (Wait.length config.engine.scanTimeoutMs) fed
    (config.scanOnce clock accepting c settings).map ScanReport.verdict =
      .ok (statusIn ((config.launched clock accepting c settings).2 ++
        log.flatMap Incident.effects), s.scanner.engine.latest c) := by
  have call := config.call_opening clock accepting c faultless
  have fed : Station.Sound config.radio.latencyMs config.engine.scanTimeoutMs
      (Station.feedRadio { config.station accepting with
        scanner := ((config.station accepting).scanner.call 0 (clock 0) (opening c settings)).1 })
      radio [] := by
    rw [call]
    exact sound
  -- The answer comes when the sleep ends, after all that was due by then.
  have followed := Station.call_sleep clock config.engine.scanTimeoutMs rfl fed
  simp only [call] at followed
  generalize called : (config.station accepting).call clock (opening c settings) = out at followed
  obtain ⟨s, effects, answers⟩ := out
  obtain ⟨rfl, told, ended⟩ := followed
  simp only [station, opening] at called
  simp only [scanOnce, called, Except.map, ScanReport.verdict, ScanReport.status?, ended]
  exact congrArg (fun effects => Except.ok (statusIn effects, _)) told

theorem verdict_of_endsBy (faultless : settings.fault? = none) {radio : Radio}
    (sound : (config.opened clock accepting c settings).feedRadio.Sound config.radio.latencyMs
      config.engine.scanTimeoutMs radio [])
    (untold : statusIn (config.launched clock accepting c settings).2 = none)
    {status : ScanStatus} {data : ScanData}
    (ends : (config.opened clock accepting c settings).feedRadio.EndsBy clock
      (Wait.length config.engine.scanTimeoutMs) c status data) :
    (config.scanOnce clock accepting c settings).map ScanReport.verdict =
      .ok (some status, data) := by
  have followed := config.scanOnce_opened clock accepting c faultless sound
  obtain ⟨told, left⟩ := ends _ (Nat.le_refl _)
  dsimp only at followed
  rw [followed, statusIn_append, untold, told, left]
  rfl

variable (settings) in
/-- A driver that accepts leaves the station with a lone request. -/
theorem lone_opened (own : config.radio.interface = config.driver.interface) :
    ∃ radio, Station.Lone config.radio.latencyMs config.engine.scanTimeoutMs
      (config.opened clock true c settings).feedRadio radio (config.request clock true c settings)
      (Wait.length config.engine.scanTimeoutMs)
      (some ⟨c, config.firstOutcome, Wait.length config.radio.latencyMs⟩) := by
  have before := config.sound_station true own
  have takes := Engine.launch_takes (e := (config.station true).scanner.engine) rfl
    (config.request clock true c settings)
  obtain ⟨scanner, timers⟩ := before.scanner.after_takes takes 0
  obtain ⟨scan, ticket, subscriber⟩ := takes.subscriber
  have opened : (config.opened clock true c settings).Sound config.radio.latencyMs
      config.engine.scanTimeoutMs (.initial config.radio) [scan] :=
    before.serve ⟨rfl, scanner, takes.config, takes.interface⟩ subscriber
  refine ⟨_, opened.feedRadio, ?_, ?_, ?_, ?_⟩
  · rw [Station.feedRadio_eq opened]
    exact (takes.inFlight _).trans (if_pos rfl)
  · rw [Station.feedRadio_eq opened]
    refine timers.trans ?_
    rw [Timers.arm, Wait.finish_zero]
    rfl
  · -- The radio is free, so the scan is taken up when it is given.
    have serving : (Station.fedRadio (config.opened clock true c settings) (.initial config.radio)
        [scan]).serving = some ⟨scan.scanClass, config.firstOutcome,
          Wait.finish 0 config.radio.latencyMs⟩ := rfl
    rw [serving, Wait.finish_zero, ticket]
    rfl
  · rfl

/-- The access points that a scan finds, as they are seen at the end of the latency. -/
def sightings (config : Configuration) (settings : ScanSettings) : List ScanResult :=
  (config.driver.accessPoints.filter
    (·.frequency ∈ (config.engine.resolve settings.buckets).scan)).map
      (·.observe (clock (Wait.length config.radio.latencyMs)))

variable (settings) in
/-- What a lone request keeps when it completes. -/
theorem discovered_opened (forward : clock 0 ≤ clock (Wait.length config.radio.latencyMs)) :
    ((config.request clock true c settings).retention config.engine).discovered
      ((config.opened clock true c settings).feedRadio.driver.results c
        (clock (Wait.length config.radio.latencyMs))) = config.sightings clock settings := by
  have remembered : (config.opened clock true c settings).feedRadio.driver.lastFrequencies.get c =
      some (config.request clock true c settings).scanFrequencies := by cases c <;> rfl
  have believed := config.engine.resolve_subset settings.buckets
  have fresh : (config.request clock true c settings).startTimeUs ≤
      clock (Wait.length config.radio.latencyMs) := forward
  rw [Request.discovered_results config.engine remembered believed, Request.sightings,
    if_pos fresh]
  -- A driver that has just started has no results in its cache.
  exact List.append_nil _

/-- A request that the driver takes brings results if its scan completes no later than the timeout.
Otherwise it fails. -/
theorem scanOnce_taken (own : config.radio.interface = config.driver.interface)
    (forward : clock 0 ≤ clock (Wait.length config.radio.latencyMs))
    (faultless : settings.fault? = none) :
    (config.scanOnce clock true c settings).map ScanReport.verdict =
      .ok (if config.firstOutcome = .complete ∧
          Wait.length config.radio.latencyMs ≤ Wait.length config.engine.scanTimeoutMs then
        (some .resultsAvailable,
          ⟨1, rank settings.maxApPerScan.toNat (config.sightings clock settings)⟩)
      else (some .failed, .empty)) := by
  obtain ⟨radio, lone⟩ := config.lone_opened clock c settings own
  have latest : (config.opened clock true c settings).feedRadio.scanner.engine.latest c =
      .empty := by
    rw [Station.feedRadio_latest]
    cases c <;> rfl
  split
  next complete =>
    have ends := lone.completes clock complete.2 rfl complete.1
    have start : (config.opened clock true c settings).feedRadio.time = 0 :=
      (Station.feedRadio_frame _).1
    have configured : (config.opened clock true c settings).feedRadio.scanner.engine.config =
      config.engine := rfl
    simp only [start, Nat.zero_max, configured] at ends
    -- The data is the first of its class, and what it holds was discovered by the request.
    have first := congrArg (fun data => data.id + 1) latest
    have discovered := config.discovered_opened clock c settings forward
    rw [config.verdict_of_endsBy clock true c faultless lone.sound rfl ends]
    exact congrArg (fun data => Except.ok (_, data))
      (congrArg₂ ScanData.mk first (congrArg (rank _) discovered))
  next lost =>
    have ends := lone.fails_unless clock rfl lost
    rw [config.verdict_of_endsBy clock true c faultless lone.sound rfl ends]
    exact congrArg (fun data => Except.ok (_, data)) latest

/-- A request that the driver refuses fails at once. -/
theorem scanOnce_declined (own : config.radio.interface = config.driver.interface)
    (faultless : settings.fault? = none) :
    (config.scanOnce clock false c settings).map ScanReport.verdict =
      .ok (some .failed, .empty) := by
  have before := config.sound_station false own
  have keeps := Engine.launch_keeps (e := (config.station false).scanner.engine) rfl
    (config.request clock false c settings)
  obtain ⟨scanner, timers⟩ := before.scanner.after_keeps keeps 0
  have opened : (config.opened clock false c settings).Sound config.radio.latencyMs
      config.engine.scanTimeoutMs (.initial config.radio) [] :=
    before.serve ⟨rfl, scanner, keeps.config, keeps.interface⟩ keeps.subscriber
  -- Neither a timer nor the radio has anything to do.
  have quiet : (config.opened clock false c settings).feedRadio.nextDue? = none := by
    refine opened.feedRadio.nextDue?_eq_none (fun d => ?_) rfl
    rw [Station.feedRadio_eq opened]
    exact (congrArg (PerClass.get · d) timers).trans (PerClass.get_both ..)
  have nothing (fuel limit : Nat) :
      Station.elapse clock fuel limit (config.opened clock false c settings).feedRadio =
        ((config.opened clock false c settings).feedRadio, []) :=
    Station.elapse_of_later clock fuel fun due next => by cases quiet.symm.trans next
  have followed := config.scanOnce_opened clock false c faultless opened.feedRadio
  simp only [nothing, Station.feedRadio_latest] at followed
  rw [followed]
  cases c <;> rfl

/-- An admitted request brings results if the driver takes it, its scan completes, and that is no
later than the timeout. Otherwise it fails. -/
theorem scanOnce_admitted (own : config.radio.interface = config.driver.interface)
    (forward : clock 0 ≤ clock (Wait.length config.radio.latencyMs))
    (faultless : settings.fault? = none) :
    (config.scanOnce clock accepting c settings).map ScanReport.verdict =
      .ok (if accepting ∧ config.firstOutcome = .complete ∧
          Wait.length config.radio.latencyMs ≤ Wait.length config.engine.scanTimeoutMs then
        (some .resultsAvailable,
          ⟨1, rank settings.maxApPerScan.toNat (config.sightings clock settings)⟩)
      else (some .failed, .empty)) := by
  cases accepting with
  | true =>
    simp only [true_and]
    exact config.scanOnce_taken clock c own forward faultless
  | false =>
    rw [if_neg fun taken => Bool.false_ne_true taken.1]
    exact config.scanOnce_declined clock c own faultless

end Configuration

end WifiScan

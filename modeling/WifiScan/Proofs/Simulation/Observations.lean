import WifiScan.Proofs.Engine.Believing
import WifiScan.Proofs.Engine.LatestResults
import WifiScan.Proofs.Engine.RequestDiscipline

/-!
# What requests observe

An engine over a virtual driver keeps the requests in flight, and the driver keeps the frequencies
of the last commands that it took. Neither sees the other's memory, but they stay in step
(`Engine.InStep`). So what a request keeps when it completes can be said without the driver's
memory: the access points that the request scans and that are in range by then, and the cached
results that it believes.

## Main result

`observations_law`: in every run the requests in flight and the driver are in step, each completion
keeps the sightings of its request followed by what it recalls, and the sightings are the same
whichever results the engine is configured to believe.
-/
namespace WifiScan

/-! ### Sightings and recollections -/

/-- The access points that a request scans, as they are seen at a reading of the clock. They are all
stale if the clock reads less than when the request was admitted. -/
def Request.sightings (r : Request) (aps : List VirtualAccessPoint) (now : UInt64) :
    List ScanResult :=
  if r.startTimeUs ≤ now then
    (aps.filter (·.frequency ∈ r.scanFrequencies)).map (·.observe now)
  else []

/-- The cached results that a request keeps. -/
def Request.recalled (r : Request) (config : EngineConfig) (stale : List ScanResult) :
    List ScanResult :=
  stale.filter fun result => r.startTimeUs ≤ result.timestampUs ∧
    (config.filterInvalidFrequencies → result.frequency ∈ r.validFrequencies)

/-- A request that the driver remembers keeps its sightings, whether or not results are dropped for
their frequencies, since it believes results wherever it scans. -/
theorem Request.discovered_results {r : Request} {d : VirtualDriver} {c : ScanClass}
    (config : EngineConfig) (remembered : d.lastFrequencies.get c = some r.scanFrequencies)
    (believed : r.scanFrequencies ⊆ r.validFrequencies) (now : UInt64) :
    (r.retention config).discovered (d.results c now) =
      r.sightings d.accessPoints now ++ r.recalled config d.stale := by
  have seen : ((d.accessPoints.filter (·.frequency ∈ r.scanFrequencies)).map
      (·.observe now)).filter (r.retention config).retains = r.sightings d.accessPoints now := by
    rw [List.filter_map, sightings]
    split
    next fresh =>
      congr 1
      -- What is seen now is fresh, and it is valid because it was scanned for.
      apply List.filter_eq_self.2
      intro ap member
      have scanned : ap.frequency ∈ r.scanFrequencies :=
        of_decide_eq_true (List.mem_filter.1 member).2
      have valid : ap.frequency ∈ r.validFrequencies := believed _ scanned
      simp [Retention.retains, retention, VirtualAccessPoint.observe, fresh, valid]
    next late =>
      rw [List.map_eq_nil_iff]
      apply List.filter_eq_nil_iff.2
      intro ap _
      simp [Retention.retains, retention, VirtualAccessPoint.observe, late]
  have kept : d.stale.filter (r.retention config).retains = r.recalled config d.stale := by
    apply List.filter_congr
    intro result _
    cases only : config.filterInvalidFrequencies <;>
      simp [Retention.retains, retention, only]
  simp only [VirtualDriver.results, remembered, Retention.discovered, List.filter_append, seen,
    kept]

/-! ### The driver's surroundings -/

namespace VirtualDriver

/-- A driver without its memory of commands. -/
def forget (d : VirtualDriver) : VirtualDriver :=
  { d with issued := [], lastFrequencies := .both none, subscriber := none }

theorem forget_command (d : VirtualDriver) (c : ScanClass) (fs : FrequencySet)
    (hidden : NetworkIds) : (d.command c fs hidden).2.forget = d.forget := by
  unfold command
  dsimp only
  split <;> rfl

theorem IsChange.forget {f : VirtualDriver → VirtualDriver} (known : IsChange f)
    (d : VirtualDriver) : (f d).forget = f d.forget := by
  obtain ⟨change, rfl⟩ := known
  cases change <;> rfl

theorem IsChange.lastFrequencies {f : VirtualDriver → VirtualDriver} (known : IsChange f)
    (d : VirtualDriver) : (f d).lastFrequencies = d.lastFrequencies := by
  obtain ⟨change, rfl⟩ := known
  cases change <;> rfl

/-- A driver after the changes from outside in a run, commanded by nobody. -/
def scripted (d : VirtualDriver) (ts : List (Turn VirtualDriver)) : VirtualDriver :=
  ts.foldl (fun d t => t.operation.change d) d

theorem scripted_concat (d : VirtualDriver) (ts : List (Turn VirtualDriver))
    (t : Turn VirtualDriver) : d.scripted (ts ++ [t]) = t.operation.change (d.scripted ts) :=
  List.foldl_concat ..

end VirtualDriver

namespace Engine

/-- The driver remembers what the requests in flight scan. -/
def InStep (e : Engine VirtualDriver) : Prop :=
  ∀ c r, e.inFlight? c = some r → e.driver.lastFrequencies.get c = some r.scanFrequencies

theorem InStep.launch {e : Engine VirtualDriver} (inStep : e.InStep) (r : Request) :
    (e.launch r).1.InStep := by
  intro c r' flight
  simp only [Engine.launch, ScanDriver.command, VirtualDriver.command] at flight ⊢
  cases accepting : e.driver.accepting with
  | true =>
    -- The engine and the driver replace what they hold of the same class.
    simp only [accepting, if_true, inFlight?] at flight ⊢
    by_cases own : c = r.scanClass
    · subst own
      simp only [PerClass.get_set_self] at flight ⊢
      cases flight
      rfl
    · simp only [PerClass.get_set_of_ne _ _ own] at flight ⊢
      exact inStep c r' flight
  | false =>
    simp only [accepting, Bool.false_eq_true, if_false, inFlight?] at flight ⊢
    by_cases own : c = r.scanClass
    · subst own
      rw [PerClass.get_set_self] at flight
      exact inStep _ r' flight
    · rw [PerClass.get_set_of_ne _ _ own] at flight
      exact inStep c r' flight

theorem complete_driver_virtual (e : Engine VirtualDriver) (now : UInt64) (c : ScanClass) :
    (e.complete now c).1.driver = e.driver := by
  rw [complete_driver]
  split <;> rfl

theorem perform_inStep {e : Engine VirtualDriver} (inStep : e.InStep) (tagged : e.Tagged)
    {t : Turn VirtualDriver} (known : ∀ f, t.operation = .script f → VirtualDriver.IsChange f) :
    (e.perform t).1.InStep := by
  -- Where no request is made, those in flight were in flight before.
  have old {c : ScanClass} {r : Request} (flight : (e.perform t).1.inFlight? c = some r)
      (none : e.made? t (e.perform t).2 = none) :
      e.driver.lastFrequencies.get c = some r.scanFrequencies := by
    rcases perform_inFlight? tagged flight with before | ⟨made, -⟩
    · exact inStep c r before
    · cases none.symm.trans made
  have performs := e.perform_performs t
  generalize e.perform t = out at old performs ⊢
  cases performs with
  | launched operation sound idle made => exact inStep.launch _
  | refused operation | unheard operation | late operation => exact inStep
  | completed reported =>
    intro c r flight
    rw [complete_driver_virtual]
    exact old flight (by simp only [made?, reported.operation])
  | failed operation | timedOut operation =>
    intro c r flight
    rw [fail_driver]
    exact old flight (by simp only [made?, operation])
  | stopped operation =>
    intro c r flight
    rw [failAll_driver]
    exact old flight (by simp only [made?, operation])
  | @scripted change operation =>
    intro c r flight
    rw [(known change operation).lastFrequencies]
    exact inStep c r flight

/-- The engine changes nothing about its driver's surroundings. -/
theorem perform_forget {e : Engine VirtualDriver} {t : Turn VirtualDriver}
    (known : ∀ f, t.operation = .script f → VirtualDriver.IsChange f) :
    (e.perform t).1.driver.forget = t.operation.change e.driver.forget := by
  have performs := e.perform_performs t
  generalize e.perform t = out at performs ⊢
  cases performs with
  | launched operation sound idle made =>
    rw [operation, launch_driver]
    exact VirtualDriver.forget_command ..
  | refused operation | unheard operation | late operation =>
    rw [operation]
    rfl
  | completed reported =>
    rw [reported.operation, complete_driver_virtual]
    rfl
  | failed operation | timedOut operation =>
    rw [operation, fail_driver]
    rfl
  | stopped operation =>
    rw [operation, failAll_driver]
    rfl
  | @scripted change operation =>
    rw [operation]
    exact (known change operation).forget e.driver

section Runs

variable {config : EngineConfig} {driver : VirtualDriverConfig} {ts : List (Turn VirtualDriver)}

theorem run_inStep (known : ∀ f, Changes ts f → VirtualDriver.IsChange f) :
    ((initial config (.initial driver)).run ts).1.InStep := by
  induction ts using List.reverseRecOn with
  | nil => intro c r flight; cases c <;> cases flight
  | append_singleton ts t ih =>
    rw [run_concat]
    refine perform_inStep (ih fun f ⟨u, member, op⟩ => ?_)
      (run_tagged (tagged_initial config _) ts) fun f op => ?_
    · exact known f ⟨u, List.mem_append_left _ member, op⟩
    · exact known f ⟨t, List.mem_append_right _ List.mem_cons_self, op⟩

theorem run_forget (known : ∀ f, Changes ts f → VirtualDriver.IsChange f) :
    ((initial config (.initial driver)).run ts).1.driver.forget =
      (VirtualDriver.initial driver).scripted ts := by
  induction ts using List.reverseRecOn with
  | nil => rfl
  | append_singleton ts t ih =>
    rw [run_concat, VirtualDriver.scripted_concat, ← ih fun f ⟨u, member, op⟩ => ?_]
    · exact perform_forget fun f op => known f
        ⟨t, List.mem_append_right _ List.mem_cons_self, op⟩
    · exact known f ⟨u, List.mem_append_left _ member, op⟩

end Runs

/-! ### Completions -/

/-- An operation completes a request, which keeps some results: those are reported one by one if the
request wants that, and their ranking replaces the latest results of the class. -/
structure CompletesWith (e : Engine VirtualDriver) (t : Turn VirtualDriver) (c : ScanClass)
    (r : Request) (kept : List ScanResult) : Prop where
  reported : e.Reported t c r
  effects : (e.perform t).2.effects = [.disarm c, .fetch c (e.driver.results c t.now)] ++
    fullReports r kept ++
      [.store c ((e.perform t).1.latest c), .finish r.tag r.handler .completed]
  latest : (e.perform t).1.latest c =
    ⟨(e.latest c).id + 1, rank r.settings.maxApPerScan.toNat kept⟩

theorem completesWith_discovered {e : Engine VirtualDriver} {t : Turn VirtualDriver} {c : ScanClass}
    {r : Request} (reported : e.Reported t c r) :
    e.CompletesWith t c r ((r.retention e.config).discovered (e.driver.results c t.now)) := by
  have performed := (e.perform_performs t).of_reported reported
  refine ⟨reported, ?_, ?_⟩
  · rw [performed, complete_effects reported.flight, latest_complete reported.flight]
    rfl
  · rw [performed]
    exact latest_complete reported.flight t.now

end Engine

section Runs

/-- An engine over a virtual driver, after a run. -/
def afterTurns (config : EngineConfig) (driver : VirtualDriverConfig)
    (ts : List (Turn VirtualDriver)) : Engine VirtualDriver :=
  ((Engine.initial config (.initial driver)).run ts).1

/-- What the requests of a run over a virtual driver observe. The access points and the cached
results are those that the changes of the run have left in the driver. -/
structure Observations (config : EngineConfig) (driver : VirtualDriverConfig)
    (ts : List (Turn VirtualDriver)) : Prop where
  inStep : ∀ c r, (afterTurns config driver ts).inFlight? c = some r →
    (afterTurns config driver ts).driver.lastFrequencies.get c = some r.scanFrequencies
  /-- A request that completes has been in flight since it was admitted, when the clock read its
  start time. It keeps its sightings, and then what it recalls. -/
  completion : ∀ t c, completedIn c ((afterTurns config driver ts).perform t).2.effects ≠ [] →
    let around := (VirtualDriver.initial driver).scripted ts
    ∃ r i, InFlightSince (Engine.initial config (.initial driver)) ts c r i ∧
      (afterTurns config driver ts).CompletesWith t c r
        (r.sightings around.accessPoints t.now ++ r.recalled config around.stale)
  /-- Had the engine been configured to believe other results, the same operation would complete a
  request with the same sightings. -/
  sightings : ∀ t c r, (afterTurns config driver ts).Reported t c r → ∀ filter policy,
    let config' := { config with filterInvalidFrequencies := filter, validityPolicy := policy }
    let around := (VirtualDriver.initial driver).scripted ts
    ∃ r', (afterTurns config' driver ts).CompletesWith t c r'
      (r.sightings around.accessPoints t.now ++ r'.recalled config' around.stale)

theorem completes_observing {config : EngineConfig} {driver : VirtualDriverConfig}
    {ts : List (Turn VirtualDriver)} (known : ∀ f, Changes ts f → VirtualDriver.IsChange f)
    {t : Turn VirtualDriver} {c : ScanClass} {r : Request}
    (reported : (afterTurns config driver ts).Reported t c r) :
    let around := (VirtualDriver.initial driver).scripted ts
    (afterTurns config driver ts).CompletesWith t c r
      (r.sightings around.accessPoints t.now ++ r.recalled config around.stale) := by
  have remembered : (afterTurns config driver ts).driver.lastFrequencies.get c =
      some r.scanFrequencies := Engine.run_inStep known c r reported.flight
  have surroundings : (afterTurns config driver ts).driver.forget =
      (VirtualDriver.initial driver).scripted ts := Engine.run_forget known
  have configured : (afterTurns config driver ts).config = config := Engine.run_config ..
  have believed := (Engine.run_consistent ts reported.flight).believed
  have completes := Engine.completesWith_discovered reported
  rw [Request.discovered_results _ remembered believed, configured] at completes
  rw [← surroundings]
  exact completes

/-- In every run over a virtual driver that is scripted from outside, requests observe what is
around when they complete. -/
theorem observations_law (config : EngineConfig) (driver : VirtualDriverConfig)
    (ts : List (Turn VirtualDriver)) (known : ∀ f, Changes ts f → VirtualDriver.IsChange f) :
    Observations config driver ts where
  inStep := Engine.run_inStep known
  completion t c completed := by
    have tagged := Engine.run_tagged (Engine.tagged_initial config (.initial driver)) ts
    rcases ((afterTurns config driver ts).perform_performs t).fetchedIn_eq tagged c with
      ⟨r, reported, -⟩ | ⟨-, none, -⟩
    · obtain ⟨i, since⟩ := Engine.run_inFlightSince ts reported.flight
      exact ⟨r, i, since, completes_observing known reported⟩
    · exact absurd none completed
  sightings t c r reported filter policy := by
    let config' := { config with filterInvalidFrequencies := filter, validityPolicy := policy }
    have initially : (Engine.initial config (VirtualDriver.initial driver)).SameScans
        (.initial config' (.initial driver)) := ⟨rfl, rfl, fun c => rfl⟩
    have same := Engine.run_sameScans initially ts
    -- The request is in flight in both runs, but for where it believes results.
    rcases same.inFlight?_cases c with ⟨idle, -⟩ | ⟨r₁, r', flight, flight', scan⟩
    · cases idle.symm.trans reported.flight
    · cases flight.symm.trans reported.flight
      have reported' : (afterTurns config' driver ts).Reported t c r' :=
        ⟨by rw [reported.operation]; simp only [afterTurns, same.driver, config'], flight'⟩
      have start : r.scan.startTimeUs = r'.scan.startTimeUs := congrArg Request.startTimeUs scan
      have frequencies : r.scan.scanFrequencies = r'.scan.scanFrequencies :=
        congrArg Request.scanFrequencies scan
      refine ⟨r', ?_⟩
      have sightings (aps : List VirtualAccessPoint) :
          r.sightings aps t.now = r'.sightings aps t.now := by
        change r.startTimeUs = r'.startTimeUs at start
        change r.scanFrequencies = r'.scanFrequencies at frequencies
        rw [Request.sightings, Request.sightings, start, frequencies]
      rw [sightings]
      exact completes_observing known reported'

/-- While a single scan goes on, a result is cached, the driver refuses one background scan and
takes the next, and the access points are replaced. -/
def changingTurns : List (Turn VirtualDriver) :=
  let settings := (ScanSettings.empty.withMaxApPerScan 4).addBucket
    ⟨30000, .fullScanResult, .band .ghz24⟩
  [⟨100, .start .single (some settings) (some "s")⟩,
    ⟨200, .script (·.addStale ⟨"Cached", "02:00:00:00:00:01", -40, 5180, 150, "", []⟩)⟩,
    ⟨300, .script (·.setAccepting false)⟩,
    ⟨300, .start .background (some settings) (some "b")⟩,
    ⟨400, .script (·.setAccepting true)⟩,
    ⟨400, .start .background (some settings) (some "b")⟩,
    ⟨500, .script (·.setAccessPoints [⟨"Moved", "02:00:00:00:00:02", 2437, -60, ""⟩])⟩]

private theorem isChange_changing : ∀ f, Changes changingTurns f → VirtualDriver.IsChange f := by
  rintro f ⟨t, member, op⟩
  simp only [changingTurns, List.mem_cons, List.not_mem_nil, or_false] at member
  rcases member with rfl | rfl | rfl | rfl | rfl | rfl | rfl <;> cases op
  · exact ⟨.stale _, rfl⟩
  · exact ⟨.accepting false, rfl⟩
  · exact ⟨.accepting true, rfl⟩
  · exact ⟨.accessPoints _, rfl⟩

/-- Both requests of these turns are still in flight and observe what is around. -/
theorem observations_law_changing :
    (∀ f, Changes changingTurns f → VirtualDriver.IsChange f) ∧
      Observations .standard .standard changingTurns :=
  ⟨isChange_changing, observations_law .standard .standard changingTurns isChange_changing⟩

-- The single scan sees the access point that has come, and then recalls the cached result.
example : ((afterTurns .standard .standard changingTurns).perform
    ⟨600, .driverEvent ⟨"wlan0", .single, .resultsAvailable⟩⟩).2.told =
      [("s", .fullResult ⟨"Moved", "02:00:00:00:00:02", -60, 2437, 600, "", []⟩ 0),
        ("s", .fullResult ⟨"Cached", "02:00:00:00:00:01", -40, 5180, 150, "", []⟩ 0),
        ("s", .status .resultsAvailable)] := by
  decide +kernel

end Runs

end WifiScan

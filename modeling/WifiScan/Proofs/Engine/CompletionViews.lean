import WifiScan.Proofs.Engine.Attribution
import WifiScan.Proofs.Engine.LatestResults
import WifiScan.Proofs.Engine.RequestDiscipline
import WifiScan.Proofs.Scan.StableRanking

/-!
# Two views of a completed scan

A handler that wants every result is told of each, and then the ranked results can be asked for.
Both are made from what the request retains of one list of raw results, so they cannot disagree.

## Main result

`completion_views`: the single results that a handler is told of are all that the request retains,
in the driver's order and each for its bucket, and the latest results are the beginning of their
sort.

## Proof strategy

A request in flight has the frequencies that its buckets name (`Engine.run_resolved`), so there is a
bucket for each result if any bucket wants them (`Request.fullResultBucket?_attributed`). The rest
is read off the effects of a completion.
-/
namespace WifiScan

variable {σ : Type}

/-- Some bucket of a request wants every result reported. -/
def Request.WantsFullResults (r : Request) : Prop :=
  ∃ b ∈ r.settings.buckets, b.reportEvents.wantsFullResults

theorem Request.wantsFullResults_iff (r : Request) :
    r.settings.wantsFullResults = true ↔ r.WantsFullResults :=
  List.any_eq_true

namespace Engine

theorem makeRequest_resolved (e : Engine σ) (now : UInt64) (c : ScanClass) (s : ScanSettings)
    (h : Handler) : (e.makeRequest now c s h).Resolved e.config.frequencyTable :=
  e.config.resolve_perBucket s.buckets

theorem fullResults_of_unwanted {r : Request} (unwanted : ¬r.WantsFullResults)
    (kept : List ScanResult) : fullResults r kept = [] :=
  if_neg fun wants => unwanted (r.wantsFullResults_iff.1 wants)

section Resolved

variable {r : Request} {t : FrequencyTable} (resolved : r.Resolved t) {kept : List ScanResult}

include resolved

/-- No result is left out, and none is reported twice. -/
theorem map_fst_fullResults (wanted : r.WantsFullResults) :
    (fullResults r kept).map Prod.fst = kept := by
  rw [fullResults, if_pos (r.wantsFullResults_iff.2 wanted), List.map_filterMap]
  have once (result : ScanResult) :
      ((r.fullResultBucket? result.frequency).map fun bucket => (result, bucket)).map Prod.fst =
        some result := by
    obtain ⟨i, found, -⟩ :=
      Request.fullResultBucket?_attributed resolved wanted result.frequency
    rw [found]
    rfl
  simp only [once]
  exact List.filterMap_some

theorem attributed_of_mem_fullResults {result : ScanResult} {bucket : Nat}
    (member : (result, bucket) ∈ fullResults r kept) :
    Attributed t r.settings.buckets result.frequency bucket := by
  unfold fullResults at member
  split at member
  next wants =>
    obtain ⟨result', -, own⟩ := List.mem_filterMap.1 member
    obtain ⟨bucket', found, same⟩ := Option.map_eq_some_iff.1 own
    cases same
    obtain ⟨i, found', attributed⟩ := Request.fullResultBucket?_attributed resolved
      (r.wantsFullResults_iff.1 wants) result.frequency
    cases found.symm.trans found'
    exact attributed
  next => cases member

end Resolved

section Driver

variable [ScanDriver σ] {config : EngineConfig} {driver : σ} {c : ScanClass} {r : Request}

theorem run_resolved (ts : List (Turn σ))
    (flight : ((initial config driver).run ts).1.inFlight? c = some r) :
    r.Resolved config.frequencyTable := by
  induction ts using List.reverseRecOn generalizing r with
  | nil => cases c <;> cases flight
  | append_singleton ts t ih =>
    rw [run_concat] at flight
    -- A request in flight was so before, or the last turn made it.
    have step := perform_lane (run_tagged (tagged_initial config driver) ts) t c
    rcases step.inFlight?_eq flight with ⟨old, -⟩ | ⟨-, s, h, -, -, rfl, -⟩
    · exact ih old
    · have made := ((initial config driver).run ts).1.makeRequest_resolved t.now c s h
      rw [run_config] at made
      exact made

end Driver

end Engine

/-- What a completed request made of a driver's raw results: what its handler was told of single
results, each with its bucket, and what its class got for its latest results. -/
structure ConsistentViews (config : EngineConfig) (c : ScanClass) (r : Request)
    (raw : List ScanResult) (o : Outcome) (latest : ScanData)
    (delivered : List (ScanResult × Nat)) : Prop where
  /-- Nobody is told of anything else. -/
  told : o.told = delivered.map (fun (result, bucket) => (r.handler, .fullResult result bucket)) ++
    [(r.handler, .status .resultsAvailable)]
  unwanted : ¬r.WantsFullResults → delivered = []
  wanted : r.WantsFullResults → (r.retention config).Retained raw (delivered.map Prod.fst)
  attributed : ∀ result bucket, (result, bucket) ∈ delivered →
    Attributed config.frequencyTable r.settings.buckets result.frequency bucket
  /-- The search for a bucket finds one, whatever the frequency. -/
  search : r.WantsFullResults → ∀ f, ∃ i, r.search f = .ok (some i) ∧
    r.fullResultBucket? f = some i ∧ Attributed config.frequencyTable r.settings.buckets f i
  stored : storedIn c o.effects = [latest]
  ranked : ∀ kept, (r.retention config).Retained raw kept →
    TopRanked r.settings.maxApPerScan.toNat kept latest.results
  /-- The two views are of the same results. -/
  consistent : r.WantsFullResults →
    TopRanked r.settings.maxApPerScan.toNat (delivered.map Prod.fst) latest.results

section Runs

variable [ScanDriver σ]

/-- When the driver tells that it has the results of a request, the request's handler is told of
what the request retains of them, one by one if it wants that, and the ranking of the same is
stored. -/
theorem completion_views (config : EngineConfig) (driver : σ) (ts : List (Turn σ)) {t : Turn σ}
    {c : ScanClass} {r : Request}
    (reported : ((Engine.initial config driver).run ts).1.Reported t c r) :
    let e := ((Engine.initial config driver).run ts).1
    ∃ delivered, ConsistentViews config c r (ScanDriver.results e.driver c t.now).1 (e.perform t).2
      ((e.perform t).1.latest c) delivered := by
  intro e
  have configured : e.config = config := Engine.run_config ..
  have resolved : r.Resolved config.frequencyTable := Engine.run_resolved ts reported.flight
  let raw := (ScanDriver.results e.driver c t.now).1
  let kept := (r.retention config).discovered raw
  have retained := (r.retention config).retained_discovered raw
  have performed := (e.perform_performs t).of_reported reported
  have latest : ((e.perform t).1.latest c).results = rank r.settings.maxApPerScan.toNat kept := by
    rw [performed, Engine.latest_complete reported.flight, configured]
    rfl
  -- What is delivered are the single reports of the results that were kept.
  refine ⟨Engine.fullResults r kept, ?told, ?unwanted, ?wanted, ?attributed, ?search, ?stored,
    ?ranked, ?consistent⟩
  case told =>
    rw [performed, Outcome.told, Engine.complete_effects reported.flight, configured]
    simp only [List.filterMap_append, Engine.told_fullReports]
    rfl
  case unwanted => exact fun unwanted => Engine.fullResults_of_unwanted unwanted kept
  case wanted =>
    intro wanted
    rw [Engine.map_fst_fullResults resolved wanted]
    exact retained
  case attributed => exact fun result bucket => Engine.attributed_of_mem_fullResults resolved
  case search =>
    intro wanted f
    obtain ⟨i, found, attributed⟩ := Request.fullResultBucket?_attributed resolved wanted f
    exact ⟨i, by rw [Request.search_eq resolved, found], found, attributed⟩
  case stored =>
    obtain ⟨fx, effects, -, stored⟩ := Engine.complete_store reported.flight t.now
    rw [performed, effects, storedIn_append, stored]
    rfl
  case ranked =>
    intro other retained'
    rw [retained'.eq, latest]
    exact topRanked_rank ..
  case consistent =>
    intro wanted
    rw [Engine.map_fst_fullResults resolved wanted, latest]
    exact topRanked_rank ..

/-- An engine that drops results at other than valid frequencies and believes all of a touched
sub-band. -/
def sightedConfig : EngineConfig := ⟨15000, true, .wholeBand, .standard⟩

/-- Three buckets, the first of which wants no single results. -/
def sightedSettings : ScanSettings :=
  ⟨30000, 2, [⟨30000, .afterEachScan, .channels [2412]⟩, ⟨30000, .fullScanResult, .channels [5180]⟩,
    ⟨30000, .fullScanResult ||| .noBatch, .band .ghz24⟩], ∅⟩

def sightedRequest : Request :=
  (Engine.initial sightedConfig (ScriptedDriver.initial "wlan0")).makeRequest 100 .single
    sightedSettings "s"

/-- A single scan, for which the driver gets five results: one is stale, and one is at a frequency
that the scan does not touch. -/
def sightedTurns : List (Turn ScriptedDriver) :=
  let raw : List ScanResult := [
    ⟨"Near", "02:00:00:00:00:01", -60, 2412, 150, "", []⟩,
    ⟨"Next", "02:00:00:00:00:02", -40, 5200, 150, "", []⟩,
    ⟨"Late", "02:00:00:00:00:03", -30, 2412, 99, "", []⟩,
    ⟨"Far", "02:00:00:00:00:04", -50, 5180, 150, "", []⟩,
    ⟨"Radar", "02:00:00:00:00:05", -20, 5500, 150, "", []⟩]
  [⟨100, .start .single (some sightedSettings) (some "s")⟩,
    ⟨200, .script fun d => { d with results := d.results.set .single raw }⟩]

/-- The driver tells that it has these results. -/
def sightedTurn : Turn ScriptedDriver :=
  ⟨300, .driverEvent ⟨"wlan0", .single, .resultsAvailable⟩⟩

/-- The request of these turns completes with two views of the three results that it retains. -/
theorem completion_views_sighted :
    let e := ((Engine.initial sightedConfig (ScriptedDriver.initial "wlan0")).run sightedTurns).1
    e.Reported sightedTurn .single sightedRequest ∧
      ∃ delivered, ConsistentViews sightedConfig .single sightedRequest
        (ScanDriver.results e.driver .single sightedTurn.now).1 (e.perform sightedTurn).2
        ((e.perform sightedTurn).1.latest .single) delivered := by
  intro e
  have reported : e.Reported sightedTurn .single sightedRequest := ⟨rfl, by decide +kernel⟩
  exact ⟨reported, completion_views sightedConfig (ScriptedDriver.initial "wlan0") sightedTurns
    reported⟩

-- The second result is at a valid frequency that no bucket scans, and falls to the first bucket
-- that wants it.
example : (((Engine.initial sightedConfig (ScriptedDriver.initial "wlan0")).run
    sightedTurns).1.perform sightedTurn).2.told =
      [("s", .fullResult ⟨"Near", "02:00:00:00:00:01", -60, 2412, 150, "", []⟩ 2),
        ("s", .fullResult ⟨"Next", "02:00:00:00:00:02", -40, 5200, 150, "", []⟩ 1),
        ("s", .fullResult ⟨"Far", "02:00:00:00:00:04", -50, 5180, 150, "", []⟩ 1),
        ("s", .status .resultsAvailable)] := by
  decide +kernel

end Runs

end WifiScan

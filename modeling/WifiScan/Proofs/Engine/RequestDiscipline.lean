import WifiScan.Proofs.Channels.Resolution
import WifiScan.Proofs.Engine.DriverLog

/-!
# Requests in flight and the driver

## Main result

`request_discipline`: whatever has happened to an engine, a request in flight fits its class, its
fields fit each other, and it is as it was made when it was admitted. The driver was commanded once
for each admitted request, and its results were fetched once for each completed one.

## Proof strategy

A class gets a request only by admitting one (`LaneStep.inFlight?_eq`), and a request made of
settings without a fault is consistent (`makeRequest_consistent`). The driver's part is read off the
log of each operation.
-/
namespace WifiScan

variable {σ : Type}

/-- A request of a class, admitted under a number, whose fields fit each other. -/
structure Request.Consistent (r : Request) (c : ScanClass) (epoch : UInt64) : Prop where
  scanClass : r.scanClass = c
  epoch : r.epoch = epoch
  sound : r.settings.check = .ok ()
  lengths : r.bucketFrequencies.length = r.settings.buckets.length
  unions : r.scanFrequencies = FrequencySet.unions r.bucketFrequencies
  believed : r.scanFrequencies ⊆ r.validFrequencies

namespace Engine

theorem makeRequest_consistent (e : Engine σ) (now : UInt64) (c : ScanClass) {s : ScanSettings}
    (h : Handler) (sound : s.fault? = none) :
    (e.makeRequest now c s h).Consistent c ((e.lanes.get c).epoch + 1) where
  scanClass := rfl
  epoch := rfl
  sound := by simp only [ScanSettings.check, makeRequest, sound]
  lengths := e.config.resolve_length s.buckets
  unions := e.config.resolve_scan s.buckets
  believed := e.config.resolve_subset s.buckets

namespace LaneStep

variable {e : Engine σ} {now : UInt64} {c : ScanClass} {admitted : Option Handler}
  {fx : List Effect} {lane : Lane} {r : Request}

/-- The request that a step leaves in flight was in flight before, or the step has made it. -/
theorem inFlight?_eq (step : e.LaneStep now c admitted fx lane) (flight : lane.inFlight = some r) :
    (e.inFlight? c = some r ∧ lane.epoch = (e.lanes.get c).epoch) ∨
      e.inFlight? c = none ∧ ∃ s h, admitted = some h ∧ s.fault? = none ∧
        e.makeRequest now c s h = r ∧ lane.epoch = (e.lanes.get c).epoch + 1 := by
  cases step with
  | rest => exact Or.inl ⟨flight, rfl⟩
  | @accepted s h r' idle sound made =>
    cases flight
    refine Or.inr ⟨idle, s, h, rfl, sound, made, ?_⟩
    rw [← made]
    rfl
  | refused idle sound made => cases idle.symm.trans flight
  | failed _ => cases flight
  | completed _ _ _ => cases flight

theorem consistent (step : e.LaneStep now c admitted fx lane)
    (before : ∀ r, e.inFlight? c = some r → r.Consistent c (e.lanes.get c).epoch)
    (flight : lane.inFlight = some r) : r.Consistent c lane.epoch := by
  rcases step.inFlight?_eq flight with ⟨old, epoch⟩ | ⟨-, s, h, -, sound, rfl, epoch⟩
  · rw [epoch]
    exact before r old
  · rw [epoch]
    exact e.makeRequest_consistent now c h sound

end LaneStep

section Driver

variable [ScanDriver σ]

theorem inFlight?_launch {e : Engine σ} {r r' : Request}
    (idle : e.inFlight? r.scanClass = none)
    (flight : (e.launch r).1.inFlight? r.scanClass = some r') : r' = r := by
  simp only [launch] at flight
  split at flight
  · simp only [inFlight?, PerClass.get_set_self] at flight
    exact (Option.some.inj flight).symm
  · simp only [inFlight?, PerClass.get_set_self] at flight
    cases idle.symm.trans flight

/-- A request that is in flight after an operation, and was not before, was made by the
operation. -/
theorem perform_inFlight? {e : Engine σ} (tagged : e.Tagged) {t : Turn σ} {c : ScanClass}
    {r : Request} (flight : (e.perform t).1.inFlight? c = some r) :
    e.inFlight? c = some r ∨
      e.made? t (e.perform t).2 = some r ∧ r.startTimeUs = t.now := by
  have step := perform_lane tagged t c
  rcases step.inFlight?_eq flight with ⟨old, -⟩ | ⟨idle, -, h, admits, -⟩
  · exact Or.inl old
  · obtain ⟨s, made, launched⟩ := (e.perform_performs t).of_admitted? admits
    rw [launched] at flight
    have same := inFlight?_launch (r := e.makeRequest t.now c s h) idle flight
    rw [same]
    exact Or.inr ⟨made, rfl⟩

end Driver

end Engine

section Runs

variable [ScanDriver σ]

/-- The request `r` of a class was made at the `i`-th turn of a run, with the clock as it read then,
and has been in flight since. -/
structure InFlightSince (e : Engine σ) (ts : List (Turn σ)) (c : ScanClass) (r : Request)
    (i : Nat) : Prop where
  made : ∃ t o, ts[i]? = some t ∧ (e.run ts).2[i]? = some o ∧
    (e.run (ts.take i)).1.made? t o = some r ∧ r.startTimeUs = t.now
  since : ∀ k, i < k → k ≤ ts.length → (e.run (ts.take k)).1.inFlight? c = some r

namespace Engine

variable {config : EngineConfig} {driver : σ} {c : ScanClass} {r : Request}

theorem run_consistent (ts : List (Turn σ))
    (flight : ((initial config driver).run ts).1.inFlight? c = some r) :
    r.Consistent c (((initial config driver).run ts).1.lanes.get c).epoch := by
  induction ts using List.reverseRecOn generalizing r with
  | nil => cases c <;> cases flight
  | append_singleton ts t ih =>
    rw [run_concat] at flight ⊢
    have tagged := run_tagged (tagged_initial config driver) ts
    exact (perform_lane tagged t c).consistent (fun _ => ih) flight

theorem run_inFlightSince (ts : List (Turn σ))
    (flight : ((initial config driver).run ts).1.inFlight? c = some r) :
    ∃ i, InFlightSince (initial config driver) ts c r i := by
  induction ts using List.reverseRecOn with
  | nil => cases c <;> cases flight
  | append_singleton ts t ih =>
    have now := flight
    rw [run_concat] at flight
    have tagged := run_tagged (tagged_initial config driver) ts
    -- The whole run is the last of the moments since then.
    have whole : ∀ k, ts.length < k → k ≤ (ts ++ [t]).length →
        ((initial config driver).run ((ts ++ [t]).take k)).1.inFlight? c = some r := by
      intro k above upto
      rw [List.length_append, List.length_singleton] at upto
      rw [List.take_of_length_le (by rw [List.length_append, List.length_singleton]; omega)]
      exact now
    rcases perform_inFlight? tagged flight with old | ⟨made, time⟩
    · obtain ⟨i, ⟨t', o, at?, outcome, made, time⟩, since⟩ := ih old
      have lt := (List.getElem?_eq_some_iff.1 at?).1
      refine ⟨i, ⟨t', o, ?_, ?_, ?_, time⟩, ?_⟩
      · rw [List.getElem?_append_left lt]
        exact at?
      · rw [run_concat, List.getElem?_append_left (by rw [length_run]; exact lt)]
        exact outcome
      · rw [List.take_append_of_le_length (Nat.le_of_lt lt)]
        exact made
      · intro k after upto
        by_cases part : k ≤ ts.length
        · rw [List.take_append_of_le_length part]
          exact since k after part
        · exact whole k (Nat.lt_of_not_le part) upto
    · refine ⟨ts.length, ⟨t, (((initial config driver).run ts).1.perform t).2,
        List.getElem?_concat_length, ?_, ?_, time⟩, whole⟩
      · rw [run_concat, ← length_run (initial config driver) ts]
        exact List.getElem?_concat_length
      · rw [List.take_left]
        exact made

end Engine

/-- What holds of the requests of an engine and of its calls on the driver after a run. -/
structure RequestDiscipline (e : Engine σ) (ts : List (Turn σ)) : Prop where
  /-- A request in flight is of its class, has the class's number, and was made of settings without
  a fault; it scans what its buckets scan, one set for each, and believes what it finds there. -/
  consistent : ∀ c r, (e.run ts).1.inFlight? c = some r →
    r.Consistent c ((e.run ts).1.lanes.get c).epoch
  /-- It is as it was made, at the reading of the clock when it was admitted. -/
  since : ∀ c r, (e.run ts).1.inFlight? c = some r → ∃ i, InFlightSince e ts c r i
  /-- The log tells all that was asked of the driver, with the answers that it gave. -/
  truthful : (ts.zip (e.run ts).2).foldlM converse? e.driver = some (e.run ts).1.driver
  /-- The driver was commanded for the requests that were admitted, one after another. -/
  commands : commandsIn (effectsOf (e.run ts).2) = (e.madeIn ts).map Request.command
  /-- A request is admitted by each start that is answered without an error. -/
  admissions : ∀ i t o, ts[i]? = some t → (e.run ts).2[i]? = some o →
    (((e.run (ts.take i)).1.made? t o).isSome ↔
      (∃ c s h, t.operation = .start c s h) ∧ o.answer = .ok ())
  /-- The results of a class are fetched by the operations in which the driver tells that it has
  those of a request in flight. Each fetches them once and completes that request. -/
  fetches : ∀ i t o, ts[i]? = some t → (e.run ts).2[i]? = some o → ∀ c,
    let e' := (e.run (ts.take i)).1
    (∃ r, e'.Reported t c r ∧ completedIn c o.effects = [r.tag] ∧
      fetchedIn c o.effects = [(ScanDriver.results e'.driver c t.now).1]) ∨
    (∀ r, ¬e'.Reported t c r) ∧ completedIn c o.effects = [] ∧ fetchedIn c o.effects = []

/-- Whatever has happened to an engine, its requests in flight and its calls on the driver are in
order. -/
theorem request_discipline (config : EngineConfig) (driver : σ) (ts : List (Turn σ)) :
    RequestDiscipline (Engine.initial config driver) ts where
  consistent _ _ := Engine.run_consistent ts
  since _ _ := Engine.run_inFlightSince ts
  truthful := Engine.converse?_run _ ts
  commands := Engine.commandsIn_run _ ts
  admissions i t o at? outcome := by
    rw [Engine.getElem?_run, at?] at outcome
    cases outcome
    exact ((Engine.run _ _).1.perform_performs t).made?_isSome_iff
  fetches i t o at? outcome c := by
    rw [Engine.getElem?_run, at?] at outcome
    cases outcome
    have tagged := Engine.run_tagged (Engine.tagged_initial config driver) (ts.take i)
    exact ((Engine.run _ _).1.perform_performs t).fetchedIn_eq tagged c

end Runs

end WifiScan

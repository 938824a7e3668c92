import WifiScan.Proofs.Channels.Resolution
import WifiScan.Proofs.Engine.Run

/-!
# Where results are believed

Where the results of a request are believed, and whether the others are dropped, matters only to
what the request keeps when it completes. Two engines that differ in nothing else than that scan
alike (`Engine.SameScans`): they admit and end the same requests and ask the same of their drivers.

## Main result

`Engine.run_sameScans`: engines that scan alike do so after any run.
-/
namespace WifiScan

variable {σ : Type}

/-! ### What is scanned does not depend on the policy -/

namespace ChannelSelection

variable {s s' : ChannelSelection}

/-- Selections of the same channels. -/
structure SameChoice (s s' : ChannelSelection) : Prop where
  table : s.table = s'.table
  mask : s.mask = s'.mask
  channels : s.channels = s'.channels

theorem SameChoice.addBucket (same : SameChoice s s') (b : BucketSettings) :
    SameChoice (s.addBucket b) (s'.addBucket b) := by
  obtain ⟨table, mask, channels⟩ := same
  unfold ChannelSelection.addBucket
  split
  · exact ⟨table, congrArg (· ||| _) mask, channels⟩
  · exact ⟨table, mask, congrArg (_ ∪ ·) channels⟩

theorem SameChoice.foldl_addBucket (same : SameChoice s s') (buckets : List BucketSettings) :
    SameChoice (buckets.foldl ChannelSelection.addBucket s)
      (buckets.foldl ChannelSelection.addBucket s') := by
  induction buckets generalizing s s' with
  | nil => exact same
  | cons b buckets ih => exact ih (same.addBucket b)

theorem SameChoice.scanFrequencies (same : SameChoice s s') :
    s.scanFrequencies = s'.scanFrequencies := by
  simp only [ChannelSelection.scanFrequencies, same.table, same.mask, same.channels]

end ChannelSelection

namespace EngineConfig

variable {config config' : EngineConfig}

theorem resolve_sameScans (table : config.frequencyTable = config'.frequencyTable)
    (buckets : List BucketSettings) :
    (config.resolve buckets).scan = (config'.resolve buckets).scan ∧
      (config.resolve buckets).perBucket = (config'.resolve buckets).perBucket := by
  have nothing : (ChannelSelection.empty config.frequencyTable config.validityPolicy).SameChoice
      (.empty config'.frequencyTable config'.validityPolicy) := ⟨table, rfl, rfl⟩
  exact ⟨(nothing.foldl_addBucket buckets).scanFrequencies,
    List.map_congr_left fun b _ => (nothing.addBucket b).scanFrequencies⟩

end EngineConfig

/-! ### Engines that scan alike -/

/-- A request without where its results are believed. -/
def Request.scan (r : Request) : Request := { r with validFrequencies := ∅ }

/-- The part of a lane that decides about scans. -/
def Lane.scan (l : Lane) : UInt64 × Option Request := (l.epoch, l.inFlight.map Request.scan)

namespace Engine

/-- Two engines that may differ in where they believe results, and in the results that they have. -/
structure SameScans (e e' : Engine σ) : Prop where
  table : e.config.frequencyTable = e'.config.frequencyTable
  driver : e.driver = e'.driver
  lanes : ∀ c, (e.lanes.get c).scan = (e'.lanes.get c).scan

namespace SameScans

variable {e e' : Engine σ}

theorem epoch (same : SameScans e e') (c : ScanClass) :
    (e.lanes.get c).epoch = (e'.lanes.get c).epoch :=
  congrArg Prod.fst (same.lanes c)

theorem inFlight? (same : SameScans e e') (c : ScanClass) :
    (e.inFlight? c).map Request.scan = (e'.inFlight? c).map Request.scan :=
  congrArg Prod.snd (same.lanes c)

/-- The requests of a class are in flight in both engines. -/
theorem inFlight?_cases (same : SameScans e e') (c : ScanClass) :
    e.inFlight? c = none ∧ e'.inFlight? c = none ∨
      ∃ r r', e.inFlight? c = some r ∧ e'.inFlight? c = some r' ∧ r.scan = r'.scan := by
  have scans := same.inFlight? c
  cases flight : e.inFlight? c with
  | none =>
    rw [flight] at scans
    exact Or.inl ⟨rfl, Option.map_eq_none_iff.1 scans.symm⟩
  | some r =>
    rw [flight] at scans
    obtain ⟨r', flight', scan⟩ := Option.map_eq_some_iff.1 scans.symm
    exact Or.inr ⟨r, r', rfl, flight', scan.symm⟩

/-- Both engines get the same driver, and lanes that scan alike. -/
theorem set (same : SameScans e e') (driver : σ) (c : ScanClass) {lane lane' : Lane}
    (scan : lane.scan = lane'.scan) :
    SameScans { e with driver, lanes := e.lanes.set c lane }
      { e' with driver, lanes := e'.lanes.set c lane' } := by
  refine ⟨same.table, rfl, fun d => ?_⟩
  by_cases other : d = c
  · subst other
    simpa only [PerClass.get_set_self] using scan
  · simpa only [PerClass.get_set_of_ne _ _ other] using same.lanes d

theorem makeRequest (same : SameScans e e') (now : UInt64) (c : ScanClass) (s : ScanSettings)
    (h : Handler) : (e.makeRequest now c s h).scan = (e'.makeRequest now c s h).scan := by
  -- The policy has a say in what is valid, and in nothing else of a request.
  obtain ⟨scan, perBucket⟩ := EngineConfig.resolve_sameScans same.table s.buckets
  simp only [Engine.makeRequest, Request.scan, same.epoch, scan, perBucket]

theorem fail (same : SameScans e e') (c : ScanClass) (reason : FailureReason) :
    SameScans (e.fail c reason).1 (e'.fail c reason).1 := by
  rcases same.inFlight?_cases c with ⟨idle, idle'⟩ | ⟨r, r', flight, flight', -⟩
  · rw [Engine.inFlight?] at idle idle'
    simpa only [Engine.fail, idle, idle'] using same
  · rw [Engine.inFlight?] at flight flight'
    simp only [Engine.fail, flight, flight', same.driver]
    exact same.set e'.driver c (congrArg (·, none) (same.epoch c))

section Driver

variable [ScanDriver σ]

theorem launch (same : SameScans e e') {r r' : Request} (scan : r.scan = r'.scan) :
    SameScans (e.launch r).1 (e'.launch r').1 := by
  obtain ⟨c, epoch, settings, handler, start, frequencies, valid, perBucket⟩ := r
  obtain ⟨c', epoch', settings', handler', start', frequencies', valid', perBucket'⟩ := r'
  cases scan
  -- The driver is given the same command, and so it answers the same.
  simp only [Engine.launch, same.driver]
  split
  · exact same.set _ c rfl
  · exact same.set _ c (congrArg (Prod.mk _) (same.inFlight? c))

theorem complete (same : SameScans e e') (now : UInt64) (c : ScanClass) :
    SameScans (e.complete now c).1 (e'.complete now c).1 := by
  rcases same.inFlight?_cases c with ⟨idle, idle'⟩ | ⟨r, r', flight, flight', -⟩
  · rw [Engine.inFlight?] at idle idle'
    simpa only [Engine.complete, idle, idle'] using same
  · rw [Engine.inFlight?] at flight flight'
    simp only [Engine.complete, flight, flight', same.driver]
    exact same.set _ c (congrArg (·, none) (same.epoch c))

/-- Both engines answer a start alike. -/
theorem start (same : SameScans e e') (now : UInt64) (c : ScanClass)
    (settings : Option ScanSettings) (handler : Option Handler) :
    (∃ error, e.start now c settings handler = .error error ∧
        e'.start now c settings handler = .error error) ∨
      ∃ out out', e.start now c settings handler = .ok out ∧
        e'.start now c settings handler = .ok out' ∧ SameScans out.1 out'.1 := by
  have scanning : e.isScanning c = e'.isScanning c := by
    rw [isScanning, isScanning, ← Option.isSome_map, same.inFlight? c, Option.isSome_map]
  -- The checks look at the settings and the slot, which both engines share.
  rw [start_eq, start_eq, scanning]
  cases settings with
  | none => exact Or.inl ⟨_, rfl, rfl⟩
  | some s =>
    cases handler with
    | none => exact Or.inl ⟨_, rfl, rfl⟩
    | some h =>
      dsimp only
      split
      · exact Or.inl ⟨_, rfl, rfl⟩
      · split
        · exact Or.inl ⟨_, rfl, rfl⟩
        · exact Or.inr ⟨_, _, rfl, rfl, same.launch (same.makeRequest now c s h)⟩

theorem perform (same : SameScans e e') (t : Turn σ) :
    SameScans (e.perform t).1 (e'.perform t).1 := by
  obtain ⟨now, operation⟩ := t
  cases operation with
  | start c settings handler =>
    simp only [Engine.perform]
    rcases same.start now c settings handler with
      ⟨error, refused, refused'⟩ | ⟨out, out', admitted, admitted', after⟩
    · rw [refused, refused']
      exact same
    · rw [admitted, admitted']
      exact after
  | driverEvent event =>
    simp only [Engine.perform, onDriverEvent, same.driver]
    split
    · cases event.kind with
      | resultsAvailable => exact same.complete now event.scanClass
      | scanFailed => exact same.fail event.scanClass .driverFailed
    · exact same
  | timeout tag =>
    simp only [Engine.perform, onTimeout]
    rcases same.inFlight?_cases tag.scanClass with
      ⟨idle, idle'⟩ | ⟨r, r', flight, flight', scan⟩
    · rw [idle, idle']
      exact same
    · -- The requests have the same number, so the timer belongs to both or to neither.
      have epoch : r.scan.epoch = r'.scan.epoch := congrArg Request.epoch scan
      change r.epoch = r'.epoch at epoch
      rw [flight, flight', Option.any_some, Option.any_some, epoch]
      split
      · exact same.fail tag.scanClass .timedOut
      · exact same
  | failAll reason =>
    simp only [Engine.perform, failAll_eq]
    exact (same.fail .single reason).fail .background reason
  | script change => exact ⟨same.table, congrArg change same.driver, same.lanes⟩

end Driver

end SameScans

variable [ScanDriver σ]

/-- Engines that scan alike do so after any run. -/
theorem run_sameScans {e e' : Engine σ} (same : SameScans e e') (ts : List (Turn σ)) :
    SameScans (e.run ts).1 (e'.run ts).1 := by
  induction ts generalizing e e' with
  | nil => exact same
  | cons t ts ih => exact ih (same.perform t)

end Engine

end WifiScan

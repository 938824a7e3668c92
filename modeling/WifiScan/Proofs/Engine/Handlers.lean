import Mathlib.Data.List.Basic
import WifiScan.Proofs.Engine.Run

/-!
# Handlers are names only

The engine calls the handlers that it is given and never looks at them: when the handlers of a run
are renamed, the run is the same but for the names (`run_rename`). So a run in which every start has
a handler of its own shows which start each call belongs to, and that holds for all handlers.
-/
namespace WifiScan

variable {σ : Type}

/-! ### Renaming -/

def Request.rename (f : Handler → Handler) (r : Request) : Request :=
  { r with handler := f r.handler }

def Lane.rename (f : Handler → Handler) (l : Lane) : Lane :=
  { l with inFlight := l.inFlight.map (Request.rename f) }

def Engine.rename (f : Handler → Handler) (e : Engine σ) : Engine σ :=
  { e with lanes := e.lanes.map (Lane.rename f) }

def Effect.rename (f : Handler → Handler) : Effect → Effect
  | .report tag h result bucket => .report tag (f h) result bucket
  | .finish tag h ending => .finish tag (f h) ending
  | effect => effect

def Operation.rename (f : Handler → Handler) : Operation σ → Operation σ
  | .start c settings handler => .start c settings (handler.map f)
  | operation => operation

def Turn.rename (f : Handler → Handler) (t : Turn σ) : Turn σ :=
  { t with operation := t.operation.rename f }

def Outcome.rename (f : Handler → Handler) (o : Outcome) : Outcome :=
  { o with effects := o.effects.map (Effect.rename f) }

/-- An engine with what it answered or did, renamed together. -/
def renameBoth (f : Handler → Handler) (out : Engine σ × List Effect) : Engine σ × List Effect :=
  (out.1.rename f, out.2.map (Effect.rename f))

variable (f : Handler → Handler)

theorem Effect.told?_rename (effect : Effect) :
    (effect.rename f).told? = effect.told?.map fun call => (f call.1, call.2) := by
  cases effect <;> rfl

theorem Outcome.told_rename (o : Outcome) :
    (o.rename f).told = o.told.map fun call => (f call.1, call.2) := by
  simp only [told, rename, List.filterMap_map, List.map_filterMap]
  exact List.filterMap_congr fun effect _ => effect.told?_rename f

namespace Engine

/-! ### The engine does not look at handlers -/

theorem lanes_rename (e : Engine σ) (c : ScanClass) :
    (e.rename f).lanes.get c = (e.lanes.get c).rename f := by
  simp only [rename, PerClass.get_map]

theorem inFlight?_rename (e : Engine σ) (c : ScanClass) :
    (e.rename f).inFlight? c = (e.inFlight? c).map (Request.rename f) := by
  simp only [inFlight?, lanes_rename, Lane.rename]

theorem rename_set (e : Engine σ) (driver : σ) (c : ScanClass) (lane : Lane) :
    Engine.rename f { e with driver, lanes := e.lanes.set c lane } =
      { e.rename f with driver, lanes := (e.rename f).lanes.set c (lane.rename f) } := by
  cases c <;> rfl

theorem makeRequest_rename (e : Engine σ) (now : UInt64) (c : ScanClass) (s : ScanSettings)
    (h : Handler) :
    (e.rename f).makeRequest now c s (f h) = (e.makeRequest now c s h).rename f := by
  simp only [makeRequest, lanes_rename]
  rfl

theorem fullReports_rename (r : Request) (discovered : List ScanResult) :
    fullReports (r.rename f) discovered = (fullReports r discovered).map (Effect.rename f) := by
  unfold fullReports
  -- The buckets of a request are the same under either name.
  change (if r.settings.wantsFullResults then _ else _) = _
  split
  · simp only [List.map_filterMap, Option.map_map]
    rfl
  · rfl

theorem fail_rename (e : Engine σ) (c : ScanClass) (reason : FailureReason) :
    (e.rename f).fail c reason = renameBoth f (e.fail c reason) := by
  simp only [fail, lanes_rename]
  cases flight : (e.lanes.get c).inFlight with
  | none =>
    simp only [Lane.rename, flight, Option.map_none]
    rfl
  | some r =>
    simp only [Lane.rename, flight, Option.map_some, renameBoth, rename_set]
    rfl

variable [ScanDriver σ]

theorem launch_rename (e : Engine σ) (r : Request) :
    (e.rename f).launch (r.rename f) = renameBoth f (e.launch r) := by
  -- The driver sees nothing of the handler.
  have same : ScanDriver.command (e.rename f).driver (r.rename f).scanClass
      (r.rename f).scanFrequencies (r.rename f).settings.hiddenNetworkIds =
    ScanDriver.command e.driver r.scanClass r.scanFrequencies r.settings.hiddenNetworkIds := rfl
  simp only [launch, lanes_rename, same]
  cases ScanDriver.command e.driver r.scanClass r.scanFrequencies r.settings.hiddenNetworkIds with
  | mk accepted driver =>
    cases accepted with
    | true =>
      simp only [if_true, renameBoth, rename_set]
      rfl
    | false =>
      simp only [Bool.false_eq_true, if_false, renameBoth, rename_set]
      rfl

theorem start_rename (e : Engine σ) (now : UInt64) (c : ScanClass)
    (settings : Option ScanSettings) (handler : Option Handler) :
    (e.rename f).start now c settings (handler.map f) =
      (e.start now c settings handler).map (renameBoth f) := by
  cases settings with
  | none => rfl
  | some s =>
    cases handler with
    | none => rfl
    | some h =>
      cases fault : s.fault? with
      | some fault => simp [start, ScanSettings.check, fault, bind, Except.bind, Except.map]
      | none =>
        cases flight : e.inFlight? c with
        | some r =>
          simp [start, ScanSettings.check, fault, isScanning, inFlight?_rename, flight, bind,
            Except.bind, Except.map]
        | none =>
          simp [start, ScanSettings.check, fault, isScanning, inFlight?_rename, flight, bind,
            Except.bind, Except.map, pure, Except.pure, makeRequest_rename, launch_rename]

theorem complete_rename (e : Engine σ) (now : UInt64) (c : ScanClass) :
    (e.rename f).complete now c = renameBoth f (e.complete now c) := by
  simp only [complete, lanes_rename]
  cases flight : (e.lanes.get c).inFlight with
  | none =>
    simp only [Lane.rename, flight, Option.map_none]
    rfl
  | some r =>
    simp only [Lane.rename, flight, Option.map_some, renameBoth, rename_set, List.map_append,
      ← fullReports_rename]
    rfl

theorem perform_rename (e : Engine σ) (t : Turn σ) :
    (e.rename f).perform (t.rename f) =
      ((e.perform t).1.rename f, (e.perform t).2.rename f) := by
  obtain ⟨now, operation⟩ := t
  cases operation with
  | start c settings handler =>
    simp only [perform, Turn.rename, Operation.rename, start_rename]
    cases e.start now c settings handler <;> rfl
  | driverEvent event =>
    -- Neither the interface nor whether a request is in flight depends on handlers.
    have same : ScanDriver.interface (e.rename f).driver = ScanDriver.interface e.driver := rfl
    simp only [perform, Turn.rename, Operation.rename, onDriverEvent, same]
    split
    · cases event.kind with
      | resultsAvailable =>
        simp only [complete_rename]
        rfl
      | scanFailed =>
        simp only [fail_rename]
        rfl
    · rfl
  | timeout tag =>
    have same : ((e.rename f).inFlight? tag.scanClass).any (·.epoch = tag.epoch) =
        (e.inFlight? tag.scanClass).any (·.epoch = tag.epoch) := by
      rw [inFlight?_rename, Option.any_map]
      rfl
    simp only [perform, Turn.rename, Operation.rename, onTimeout, same]
    split
    · simp only [fail_rename]
      rfl
    · rfl
  | failAll reason =>
    simp only [perform, Turn.rename, Operation.rename, failAll_eq, fail_rename, renameBoth,
      Outcome.rename, List.map_append]
  | script change => rfl

/-- A run with its handlers renamed is the same run, but for the names. -/
theorem run_rename (e : Engine σ) (ts : List (Turn σ)) :
    (e.rename f).run (ts.map (Turn.rename f)) =
      ((e.run ts).1.rename f, (e.run ts).2.map (Outcome.rename f)) := by
  induction ts generalizing e with
  | nil => rfl
  | cons t ts ih => simp only [List.map_cons, run, perform_rename, ih]

end Engine

end WifiScan

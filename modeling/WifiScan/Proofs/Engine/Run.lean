import WifiScan.Engine.Basic

/-!
# Runs of the engine

A run performs operations one after another. Whatever an operation is, it does to each class one of
five things, and what it does to both goes into the log class by class (`perform_lanes`). Every law
about runs is proved from these five cases.
-/
namespace WifiScan

/-- An element of a list with one more element is an old one or the last. -/
theorem getElem?_concat_cases {α : Type} {l : List α} {a b : α} {i : Nat}
    (at? : (l ++ [a])[i]? = some b) : l[i]? = some b ∨ (i = l.length ∧ b = a) := by
  rcases Nat.lt_trichotomy i l.length with lt | rfl | gt
  · exact Or.inl (List.getElem?_append_left lt ▸ at?)
  · rw [List.getElem?_concat_length] at at?
    exact Or.inr ⟨rfl, (Option.some.inj at?).symm⟩
  · have := (List.getElem?_eq_some_iff.1 at?).1
    simp only [List.length_append, List.length_singleton] at this
    omega

/-- One thing that happens to an engine. -/
inductive Operation (σ : Type) where
  | start (scanClass : ScanClass) (settings : Option ScanSettings) (handler : Option Handler)
  | driverEvent (event : DriverEvent)
  | timeout (tag : TimerTag)
  | failAll (reason : FailureReason)
  /-- The driver is changed from outside. -/
  | script (change : σ → σ)

/-- An operation, and what the clock reads during it. -/
structure Turn (σ : Type) where
  now : UInt64
  operation : Operation σ

/-- What an operation brought: the answer to a start, and the effects in order. -/
structure Outcome where
  answer : Except ScanError Unit
  effects : List Effect

/-- The calls that an operation made on handlers. -/
def Outcome.told (o : Outcome) : List (Handler × ScanEvent) := o.effects.filterMap Effect.told?

/-- The handler of the request of a class that a turn admitted, if it admitted one. -/
def Turn.admitted? {σ : Type} (t : Turn σ) (o : Outcome) (c : ScanClass) : Option Handler :=
  match t.operation, o.answer with
  | .start d _ handler, .ok () => if d = c then handler else none
  | _, _ => none

namespace Engine

variable {σ : Type}

section Driver

variable [ScanDriver σ]

/-- Performs one operation. Only a start can be answered with an error, and then it does nothing. -/
def perform (e : Engine σ) (t : Turn σ) : Engine σ × Outcome :=
  match t.operation with
  | .start c settings handler =>
    match e.start t.now c settings handler with
    | .error error => (e, ⟨.error error, []⟩)
    | .ok (e, effects) => (e, ⟨.ok (), effects⟩)
  | .driverEvent event => let (e, effects) := e.onDriverEvent t.now event; (e, ⟨.ok (), effects⟩)
  | .timeout tag => let (e, effects) := e.onTimeout tag; (e, ⟨.ok (), effects⟩)
  | .failAll reason => let (e, effects) := e.failAll reason; (e, ⟨.ok (), effects⟩)
  | .script change => ({ e with driver := change e.driver }, ⟨.ok (), []⟩)

/-- Performs operations in order. -/
def run (e : Engine σ) : List (Turn σ) → Engine σ × List Outcome
  | [] => (e, [])
  | t :: ts =>
    let (e, outcome) := e.perform t
    let (e, outcomes) := run e ts
    (e, outcome :: outcomes)

theorem run_append (e : Engine σ) (ts us : List (Turn σ)) :
    e.run (ts ++ us) =
      (((e.run ts).1.run us).1, (e.run ts).2 ++ ((e.run ts).1.run us).2) := by
  induction ts generalizing e with
  | nil => rfl
  | cons t ts ih => simp only [List.cons_append, run, ih]

theorem run_concat (e : Engine σ) (ts : List (Turn σ)) (t : Turn σ) :
    e.run (ts ++ [t]) =
      (((e.run ts).1.perform t).1, (e.run ts).2 ++ [((e.run ts).1.perform t).2]) :=
  run_append e ts [t]

theorem length_run (e : Engine σ) (ts : List (Turn σ)) : (e.run ts).2.length = ts.length := by
  induction ts generalizing e with
  | nil => rfl
  | cons t ts ih => simp only [run, List.length_cons, ih]

/-- What a turn brings is found by performing it after those before it. -/
theorem getElem?_run (e : Engine σ) (ts : List (Turn σ)) (i : Nat) :
    (e.run ts).2[i]? = (ts[i]?).map fun t => ((e.run (ts.take i)).1.perform t).2 := by
  induction ts generalizing e i with
  | nil => rfl
  | cons t ts ih =>
    cases i with
    | zero => rfl
    | succ i => simp only [run, List.getElem?_cons_succ, ih, List.take_succ_cons]

/-! ### When a start is admitted -/

/-- A start by cases, in the order in which it looks at what it is given. -/
theorem start_eq (e : Engine σ) (now : UInt64) (c : ScanClass) (settings : Option ScanSettings)
    (handler : Option Handler) :
    e.start now c settings handler =
      match settings, handler with
      | none, _ => .error (.invalidRequest .missingSettings)
      | some _, none => .error (.invalidRequest .missingHandler)
      | some s, some h =>
        match s.fault? with
        | some fault => .error (.invalidRequest fault)
        | none =>
          if e.isScanning c then .error (.busy c)
          else .ok (e.launch (e.makeRequest now c s h)) := by
  cases settings with
  | none => rfl
  | some s =>
    cases handler with
    | none => rfl
    | some h =>
      cases fault : s.fault? with
      | some fault => simp [start, ScanSettings.check, fault, bind, Except.bind]
      | none =>
        cases busy : e.isScanning c <;>
          simp [start, ScanSettings.check, fault, busy, bind, Except.bind, pure, Except.pure]

/-- Exactly when a start is admitted, and that nothing but the launch follows. -/
theorem start_eq_ok_iff (e : Engine σ) (now : UInt64) (c : ScanClass)
    (settings : Option ScanSettings) (handler : Option Handler) (out : Engine σ × List Effect) :
    e.start now c settings handler = .ok out ↔
      ∃ s h, settings = some s ∧ handler = some h ∧ s.fault? = none ∧ e.inFlight? c = none ∧
        out = e.launch (e.makeRequest now c s h) := by
  rw [start_eq]
  cases settings with
  | none => simp
  | some s =>
    cases handler with
    | none => simp
    | some h =>
      cases fault : s.fault? with
      | some fault => simp [fault]
      | none =>
        cases flight : e.inFlight? c with
        | some r => simp [fault, isScanning, flight]
        | none => simp [fault, isScanning, flight, eq_comm]

/-- A turn admits a request of a class exactly if it is a start of the class answered without an
error. -/
theorem admitted?_isSome_iff (e : Engine σ) (t : Turn σ) (c : ScanClass) :
    (t.admitted? (e.perform t).2 c).isSome ↔
      ∃ s h, t.operation = .start c s h ∧ (e.perform t).2.answer = .ok () := by
  obtain ⟨now, operation⟩ := t
  cases operation with
  | start d settings handler =>
    simp only [perform, Turn.admitted?]
    cases started : e.start now d settings handler with
    | error error => simp
    | ok out =>
      obtain ⟨s, h, rfl, rfl, -, -, rfl⟩ := (start_eq_ok_iff ..).1 started
      by_cases same : d = c <;> simp [same]
  | driverEvent event => simp [Turn.admitted?]
  | timeout tag => simp [Turn.admitted?]
  | failAll reason => simp [Turn.admitted?]
  | script change => simp [Turn.admitted?]

end Driver

/-! ### What an operation does to a class -/

/-- What an operation can do to a class: nothing, admit a request that the driver takes or refuses,
or end the request in flight. The indices are the handler of a request that is admitted, the effects
for the class, and its lane afterwards. -/
inductive LaneStep (e : Engine σ) (now : UInt64) (c : ScanClass) :
    Option Handler → List Effect → Lane → Prop where
  | rest : LaneStep e now c none [] (e.lanes.get c)
  | accepted {s : ScanSettings} {h : Handler} {r : Request} (idle : e.inFlight? c = none)
      (sound : s.fault? = none) (made : e.makeRequest now c s h = r) :
      LaneStep e now c (some h)
        [.command c r.scanFrequencies r.settings.hiddenNetworkIds true,
          .arm r.tag e.config.scanTimeoutMs]
        { e.lanes.get c with epoch := r.epoch, inFlight := some r }
  | refused {s : ScanSettings} {h : Handler} {r : Request} (idle : e.inFlight? c = none)
      (sound : s.fault? = none) (made : e.makeRequest now c s h = r) :
      LaneStep e now c (some h)
        [.command c r.scanFrequencies r.settings.hiddenNetworkIds false,
          .finish r.tag h (.failed .driverRejected)]
        { e.lanes.get c with epoch := r.epoch }
  | failed {r : Request} {reason : FailureReason} (flight : e.inFlight? c = some r) :
      LaneStep e now c none [.disarm c, .finish r.tag r.handler (.failed reason)]
        { e.lanes.get c with inFlight := none }
  | completed {r : Request} {raw discovered : List ScanResult} {data : ScanData}
      (flight : e.inFlight? c = some r)
      (retained : discovered = (r.retention e.config).discovered raw)
      (ranked : data = ⟨(e.latest c).id + 1, rank r.settings.maxApPerScan.toNat discovered⟩) :
      LaneStep e now c none
        ([.disarm c, .fetch c raw] ++ fullReports r discovered ++
          [.store c data, .finish r.tag r.handler .completed])
        { e.lanes.get c with inFlight := none, latest := data }

/-- Full reports are reports of single results to the request's handler. -/
theorem eq_report_of_mem_fullReports {r : Request} {discovered : List ScanResult} {effect : Effect}
    (h : effect ∈ fullReports r discovered) :
    ∃ result bucket, effect = .report r.tag r.handler result bucket := by
  unfold fullReports at h
  split at h
  · obtain ⟨result, -, h⟩ := List.mem_filterMap.1 h
    obtain ⟨bucket, -, rfl⟩ := Option.map_eq_some_iff.1 h
    exact ⟨result, bucket, rfl⟩
  · cases h

/-- The single results that the handler of a request is told of, each with its bucket. -/
def fullResults (r : Request) (discovered : List ScanResult) : List (ScanResult × Nat) :=
  if r.settings.wantsFullResults then
    discovered.filterMap fun result =>
      (r.fullResultBucket? result.frequency).map fun bucket => (result, bucket)
  else []

theorem told_fullReports (r : Request) (discovered : List ScanResult) :
    (fullReports r discovered).filterMap Effect.told? =
      (fullResults r discovered).map fun (result, bucket) =>
        (r.handler, .fullResult result bucket) := by
  unfold fullReports fullResults
  split
  · simp only [List.filterMap_filterMap, List.map_filterMap]
    congr 1
    funext result
    cases r.fullResultBucket? result.frequency <;> rfl
  · rfl

theorem fail_lanes_of_ne (e : Engine σ) {c d : ScanClass} (reason : FailureReason) (h : c ≠ d) :
    (e.fail d reason).1.lanes.get c = e.lanes.get c := by
  unfold fail
  dsimp only
  split
  · rfl
  · exact PerClass.get_set_of_ne _ _ h

/-- Failing a class is a step from any engine that agrees on the class. -/
theorem fail_lane {e e' : Engine σ} (now : UInt64) (c : ScanClass) (reason : FailureReason)
    (same : e'.lanes.get c = e.lanes.get c) :
    e.LaneStep now c none (e'.fail c reason).2 ((e'.fail c reason).1.lanes.get c) := by
  unfold fail
  dsimp only
  split
  · rw [same]; exact .rest
  next r flight =>
    simp only [PerClass.get_set_self, same]
    exact .failed (by rw [← flight, same]; rfl)

theorem failAll_eq (e : Engine σ) (reason : FailureReason) :
    e.failAll reason =
      let (e₁, single) := e.fail .single reason
      let (e₂, background) := e₁.fail .background reason
      (e₂, single ++ background) := by
  simp [failAll, ScanClass.all]

/-- Each class makes a step, and the single scan's effects come before the other's. Where a class
admits a request, the other has no effects. -/
def LanesStep (e : Engine σ) (now : UInt64) (admitted : ScanClass → Option Handler)
    (effects : List Effect) (e' : Engine σ) : Prop :=
  ∃ fx : PerClass (List Effect), effects = fx.single ++ fx.background ∧
    (∀ c, e.LaneStep now c (admitted c) (fx.get c) (e'.lanes.get c)) ∧
    ∀ c, (admitted c).isSome → ∀ c', c' ≠ c → fx.get c' = []

/-- An operation that steps one class and leaves the other. -/
theorem lanes_of_one {e e' : Engine σ} {now : UInt64} {d : ScanClass} {effects : List Effect}
    (admitted : ScanClass → Option Handler) (elsewhere : ∀ c, c ≠ d → admitted c = none)
    (own : e.LaneStep now d (admitted d) effects (e'.lanes.get d))
    (other : ∀ c, c ≠ d → e'.lanes.get c = e.lanes.get c) :
    e.LanesStep now admitted effects e' := by
  have quiet : ∀ c, c ≠ d → ((PerClass.both []).set d effects).get c = [] := fun c hc => by
    rw [PerClass.get_set_of_ne _ _ hc, PerClass.get_both]
  refine ⟨(PerClass.both []).set d effects, ?_, ?_, ?_⟩
  · cases d <;> simp [PerClass.set, PerClass.both]
  · intro c
    by_cases hc : c = d
    · -- The class that steps
      subst hc
      simpa only [PerClass.get_set_self] using own
    · -- The class that rests
      rw [quiet c hc, elsewhere c hc, other c hc]
      exact .rest
  · intro c admits c' hc
    by_cases hd : c = d
    · exact quiet c' (hd ▸ hc)
    · rw [elsewhere c hd] at admits
      cases admits

/-- An operation that steps no class. -/
theorem lanes_of_none (e : Engine σ) (now : UInt64) (admitted : ScanClass → Option Handler)
    (nobody : ∀ c, admitted c = none) : e.LanesStep now admitted [] e := by
  refine ⟨.both [], rfl, ?_, fun c _ c' _ => PerClass.get_both ..⟩
  intro c
  rw [PerClass.get_both, nobody c]
  exact .rest

section Driver

variable [ScanDriver σ]

theorem launch_lanes_of_ne (e : Engine σ) (r : Request) {c : ScanClass} (h : c ≠ r.scanClass) :
    (e.launch r).1.lanes.get c = e.lanes.get c := by
  unfold launch
  dsimp only
  split <;> exact PerClass.get_set_of_ne _ _ h

theorem complete_lanes_of_ne (e : Engine σ) (now : UInt64) {c d : ScanClass} (h : c ≠ d) :
    (e.complete now d).1.lanes.get c = e.lanes.get c := by
  unfold complete
  dsimp only
  split
  · rfl
  · exact PerClass.get_set_of_ne _ _ h

theorem launch_lane (e : Engine σ) (now : UInt64) (c : ScanClass) (s : ScanSettings) (h : Handler)
    (idle : e.inFlight? c = none) (sound : s.fault? = none) :
    e.LaneStep now c (some h) (e.launch (e.makeRequest now c s h)).2
      ((e.launch (e.makeRequest now c s h)).1.lanes.get c) := by
  generalize made : e.makeRequest now c s h = r
  have hc : r.scanClass = c := by rw [← made]; rfl
  have hh : r.handler = h := by rw [← made]; rfl
  subst hc hh
  unfold launch
  dsimp only
  split
  next taken =>
    simp only [PerClass.get_set_self, taken]
    exact .accepted idle sound made
  next refused =>
    simp only [PerClass.get_set_self, refused]
    exact .refused idle sound made

theorem complete_lane (e : Engine σ) (now : UInt64) (c : ScanClass) :
    e.LaneStep now c none (e.complete now c).2 ((e.complete now c).1.lanes.get c) := by
  unfold complete
  dsimp only
  split
  · exact .rest
  next r flight =>
    simp only [PerClass.get_set_self]
    exact .completed flight rfl rfl

/-- Every operation steps each class. -/
theorem perform_lanes (e : Engine σ) (t : Turn σ) :
    e.LanesStep t.now (t.admitted? (e.perform t).2) (e.perform t).2.effects (e.perform t).1 := by
  obtain ⟨now, operation⟩ := t
  cases operation with
  | start d settings handler =>
    simp only [perform]
    cases started : e.start now d settings handler with
    | error error => exact lanes_of_none e now _ fun _ => rfl
    | ok out =>
      -- An admitted start launches its request, and a launch touches its own class only.
      obtain ⟨s, h, rfl, rfl, sound, idle, rfl⟩ := (start_eq_ok_iff ..).1 started
      refine lanes_of_one (d := d) _ (fun c hc => if_neg (Ne.symm hc)) ?_ ?_
      · simp only [Turn.admitted?, if_true]
        exact launch_lane e now d s h idle sound
      · intro c hc
        exact launch_lanes_of_ne e _ hc
  | driverEvent event =>
    simp only [perform, onDriverEvent]
    split
    · cases event.kind with
      | resultsAvailable =>
        exact lanes_of_one (d := event.scanClass) _ (fun _ _ => rfl) (complete_lane ..)
          (fun c hc => complete_lanes_of_ne e now hc)
      | scanFailed =>
        exact lanes_of_one (d := event.scanClass) _ (fun _ _ => rfl) (fail_lane _ _ _ rfl)
          (fun c hc => fail_lanes_of_ne e _ hc)
    · -- Another interface's event, or no request to end
      exact lanes_of_none e now _ fun _ => rfl
  | timeout tag =>
    simp only [perform, onTimeout]
    split
    · exact lanes_of_one (d := tag.scanClass) _ (fun _ _ => rfl) (fail_lane _ _ _ rfl)
        (fun c hc => fail_lanes_of_ne e _ hc)
    · -- A timer of a request that has ended
      exact lanes_of_none e now _ fun _ => rfl
  | failAll reason =>
    -- The one operation that steps both classes: the second starts where the first has left off,
    -- but finds its own lane as it was.
    simp only [perform, failAll_eq]
    refine ⟨⟨(e.fail .single reason).2, ((e.fail .single reason).1.fail .background reason).2⟩,
      rfl, ?_, fun c admits => by cases admits⟩
    intro c
    cases c with
    | single =>
      rw [fail_lanes_of_ne _ _ (by decide)]
      exact fail_lane now .single reason rfl
    | background =>
      exact fail_lane now .background reason (fail_lanes_of_ne e reason (by decide))
  | script change => exact lanes_of_none e now _ fun _ => rfl

end Driver

end Engine

end WifiScan

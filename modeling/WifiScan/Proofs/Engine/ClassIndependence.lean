import WifiScan.Proofs.Engine.DriverCalls
import WifiScan.Proofs.Engine.Run

/-!
# The classes do not interfere

Everything that the engine keeps and does is kept and done for one class. So a run without the
operations addressed to the other class is, for a class, the same run, provided that the driver
answers for the class without regard to the other.

## Main result

`class_independence`: deleting the operations of the other class from a run changes nothing for a
class, neither its lane at any time nor its answers and effects.
-/
namespace WifiScan

variable {σ : Type}

/-- Whether an operation is addressed to a class; what is addressed to none concerns both. -/
def Operation.concerns (c : ScanClass) : Operation σ → Bool
  | start d _ _ => d = c
  | driverEvent event => event.scanClass = c
  | timeout tag => tag.scanClass = c
  | failAll _ | script _ => true

def Turn.concerns (c : ScanClass) (t : Turn σ) : Bool := t.operation.concerns c

/-- What an operation brought for a class: its answer, and the effects that concern the class. -/
def Outcome.forClass (c : ScanClass) (o : Outcome) : Outcome :=
  { o with effects := o.effects.filter (·.scanClass = c) }

/-- What the operations of a class brought for the class, in a run with operations of both. -/
def broughtFor (c : ScanClass) (ts : List (Turn σ)) (outcomes : List Outcome) : List Outcome :=
  ((ts.zip outcomes).filter fun (t, _) => t.concerns c).map fun (_, o) => o.forClass c

theorem broughtFor_cons (c : ScanClass) (t : Turn σ) (ts : List (Turn σ)) (o : Outcome)
    (os : List Outcome) :
    broughtFor c (t :: ts) (o :: os) =
      if t.concerns c then o.forClass c :: broughtFor c ts os else broughtFor c ts os := by
  simp only [broughtFor, List.zip_cons_cons, List.filter_cons]
  split <;> rfl

/-- The changes that operations make to the driver from outside. -/
def Changes (ts : List (Turn σ)) (change : σ → σ) : Prop := ∃ t ∈ ts, t.operation = .script change

namespace Engine

/-! ### Effects belong to classes -/

/-- Requests in flight have the class of their lane. -/
def Tagged (e : Engine σ) : Prop := ∀ c r, e.inFlight? c = some r → r.scanClass = c

theorem tagged_initial (config : EngineConfig) (driver : σ) : (initial config driver).Tagged := by
  intro c r flight
  cases c <;> cases flight

theorem makeRequest_scanClass (e : Engine σ) (now : UInt64) (c : ScanClass) (s : ScanSettings)
    (h : Handler) : (e.makeRequest now c s h).scanClass = c := rfl

namespace LaneStep

variable {e : Engine σ} {now : UInt64} {c : ScanClass} {admitted : Option Handler}
  {fx : List Effect} {lane : Lane}

/-- The effects of a step concern its class. -/
theorem scanClass_eq (step : e.LaneStep now c admitted fx lane) (tagged : e.Tagged) :
    ∀ effect ∈ fx, effect.scanClass = c := by
  cases step with
  | rest => simp
  | accepted idle sound made =>
    subst made
    simp [Effect.scanClass, Request.tag, makeRequest_scanClass]
  | refused idle sound made =>
    subst made
    simp [Effect.scanClass, Request.tag, makeRequest_scanClass]
  | failed flight => simp [Effect.scanClass, Request.tag, tagged _ _ flight]
  | completed flight retained ranked =>
    intro effect member
    simp only [List.mem_append, List.mem_cons, List.not_mem_nil, or_false] at member
    -- Single results carry the tag of the request, and so its class.
    rcases member with ((rfl | rfl) | report) | rfl | rfl
    · rfl
    · rfl
    · obtain ⟨result, bucket, rfl⟩ := eq_report_of_mem_fullReports report
      exact tagged _ _ flight
    · rfl
    · exact tagged _ _ flight

/-- A step leaves a request of its class in flight, or none. -/
theorem scanClass_inFlight (step : e.LaneStep now c admitted fx lane) (tagged : e.Tagged)
    {r : Request} (flight : lane.inFlight = some r) : r.scanClass = c := by
  cases step with
  | rest => exact tagged c r flight
  | accepted idle sound made =>
    subst made
    cases flight
    rfl
  | refused idle sound made => exact tagged c r flight
  | failed _ => cases flight
  | completed _ _ _ => cases flight

end LaneStep

theorem fail_config (e : Engine σ) (c : ScanClass) (reason : FailureReason) :
    (e.fail c reason).1.config = e.config := by
  unfold fail
  dsimp only
  split <;> rfl

section Driver

variable [ScanDriver σ]

theorem perform_tagged {e : Engine σ} (tagged : e.Tagged) (t : Turn σ) :
    (e.perform t).1.Tagged := by
  obtain ⟨fx, -, steps, -⟩ := e.perform_lanes t
  intro c r flight
  exact (steps c).scanClass_inFlight tagged flight

theorem perform_config (e : Engine σ) (t : Turn σ) : (e.perform t).1.config = e.config := by
  obtain ⟨now, operation⟩ := t
  cases operation with
  | start c settings handler =>
    simp only [perform]
    cases started : e.start now c settings handler with
    | error error => rfl
    | ok out =>
      obtain ⟨s, h, -, -, -, -, rfl⟩ := (start_eq_ok_iff ..).1 started
      simp only [launch]
      split <;> rfl
  | driverEvent event =>
    simp only [perform, onDriverEvent]
    split
    · cases event.kind with
      | resultsAvailable =>
        simp only [complete]
        split <;> rfl
      | scanFailed => exact fail_config ..
    · rfl
  | timeout tag =>
    simp only [perform, onTimeout]
    split
    · exact fail_config ..
    · rfl
  | failAll reason => simp only [perform, failAll_eq, fail_config]
  | script change => rfl

end Driver

/-! ### What a class needs of two engines -/

section Driver

variable [ScanDriver σ]

/-- Two engines that a class cannot tell apart. -/
structure Alike (c : ScanClass) (e e' : Engine σ) : Prop where
  config : e.config = e'.config
  lane : e.lanes.get c = e'.lanes.get c
  answers : SameAnswers c e.driver e'.driver

end Driver

theorem fail_driver (e : Engine σ) (c : ScanClass) (reason : FailureReason) :
    (e.fail c reason).1.driver = e.driver := by
  unfold fail
  dsimp only
  split <;> rfl

theorem fail_alike {e e' : Engine σ} {c : ScanClass} (lane : e.lanes.get c = e'.lanes.get c)
    (reason : FailureReason) :
    (e.fail c reason).2 = (e'.fail c reason).2 ∧
      (e.fail c reason).1.lanes.get c = (e'.fail c reason).1.lanes.get c := by
  simp only [fail, lane]
  cases (e'.lanes.get c).inFlight with
  | none => exact ⟨rfl, lane⟩
  | some r => simp only [PerClass.get_set_self, and_self]

/-- The effects of failing everything, of which a class notices its own. -/
theorem failAll_effects_forClass {e : Engine σ} (tagged : e.Tagged) (c : ScanClass)
    (reason : FailureReason) :
    (e.failAll reason).2.filter (·.scanClass = c) = (e.fail c reason).2 := by
  have own (d : ScanClass) : ∀ effect ∈ (e.fail d reason).2, effect.scanClass = d :=
    (fail_lane 0 d reason rfl).scanClass_eq tagged
  -- The background scan fails as if the single scan had not failed before it.
  have background : ((e.fail .single reason).1.fail .background reason).2 =
      (e.fail .background reason).2 :=
    (fail_alike (fail_lanes_of_ne e reason (by decide)) reason).1
  rw [failAll_eq]
  simp only [background, List.filter_append]
  cases c with
  | single =>
    rw [List.filter_eq_self.2 fun effect h => decide_eq_true (own _ effect h),
      List.filter_eq_nil_iff.2 fun effect h => by simp [own _ effect h], List.append_nil]
  | background =>
    rw [List.filter_eq_nil_iff.2 fun effect h => by simp [own _ effect h],
      List.filter_eq_self.2 fun effect h => decide_eq_true (own _ effect h), List.nil_append]

theorem failAll_lane (e : Engine σ) (c : ScanClass) (reason : FailureReason) :
    (e.failAll reason).1.lanes.get c = (e.fail c reason).1.lanes.get c := by
  rw [failAll_eq]
  cases c with
  | single => exact fail_lanes_of_ne _ _ (by decide)
  | background => exact (fail_alike (fail_lanes_of_ne e reason (by decide)) reason).2

section Driver

variable [ScanDriver σ]

theorem launch_driver (e : Engine σ) (r : Request) :
    (e.launch r).1.driver = (DriverCall.command r.scanClass r.scanFrequencies
      r.settings.hiddenNetworkIds).apply e.driver := by
  simp only [launch]
  split <;> rfl

theorem launch_alike {e e' : Engine σ} {r : Request} (alike : Alike r.scanClass e e') :
    (e.launch r).2 = (e'.launch r).2 ∧
      (e.launch r).1.lanes.get r.scanClass = (e'.launch r).1.lanes.get r.scanClass := by
  simp only [launch, alike.answers.command, alike.lane, alike.config]
  split <;> simp only [PerClass.get_set_self, and_self]

theorem complete_driver (e : Engine σ) (now : UInt64) (c : ScanClass) :
    (e.complete now c).1.driver =
      DriverCall.applyAll e.driver (if e.isScanning c then [.results c now] else []) := by
  cases flight : (e.lanes.get c).inFlight <;>
    simp [complete, isScanning, inFlight?, flight, DriverCall.applyAll, DriverCall.apply]

theorem complete_alike {e e' : Engine σ} {c : ScanClass} (alike : Alike c e e') (now : UInt64) :
    (e.complete now c).2 = (e'.complete now c).2 ∧
      (e.complete now c).1.lanes.get c = (e'.complete now c).1.lanes.get c := by
  simp only [complete, alike.answers.results, alike.lane, alike.config]
  cases (e'.lanes.get c).inFlight with
  | none => exact ⟨rfl, alike.lane⟩
  | some r => simp only [PerClass.get_set_self, and_self]

/-- Alike engines refuse the same starts, and launch the same requests. -/
theorem start_alike {e e' : Engine σ} {c : ScanClass} (alike : Alike c e e') (now : UInt64)
    (settings : Option ScanSettings) (handler : Option Handler) :
    (∃ error, e.start now c settings handler = .error error ∧
      e'.start now c settings handler = .error error) ∨
    ∃ r, r.scanClass = c ∧ e.start now c settings handler = .ok (e.launch r) ∧
      e'.start now c settings handler = .ok (e'.launch r) := by
  have flight : e.inFlight? c = e'.inFlight? c := congrArg Lane.inFlight alike.lane
  cases settings with
  | none => exact Or.inl ⟨_, rfl, rfl⟩
  | some s =>
    cases handler with
    | none => exact Or.inl ⟨_, rfl, rfl⟩
    | some h =>
      have made : e.makeRequest now c s h = e'.makeRequest now c s h := by
        simp only [makeRequest, alike.config, alike.lane]
      cases sound : s.fault? with
      | some fault =>
        refine Or.inl ⟨.invalidRequest fault, ?_, ?_⟩ <;>
          simp [start, ScanSettings.check, sound, bind, Except.bind]
      | none =>
        cases idle : e'.inFlight? c with
        | some r =>
          refine Or.inl ⟨.busy c, ?_, ?_⟩ <;>
            simp [start, ScanSettings.check, sound, isScanning, flight, idle, bind, Except.bind]
        | none =>
          -- Both make the same request of the lane that they share.
          refine Or.inr ⟨e'.makeRequest now c s h, rfl, ?_, ?_⟩
          · rw [← made]
            exact (start_eq_ok_iff ..).2 ⟨s, h, rfl, rfl, sound, flight.trans idle, rfl⟩
          · exact (start_eq_ok_iff ..).2 ⟨s, h, rfl, rfl, sound, idle, rfl⟩

/-! ### Operations of the class and of the other -/

/-- An operation of the other class changes nothing for a class, and calls the driver only for the
other. -/
theorem perform_other {e : Engine σ} (tagged : e.Tagged) {c : ScanClass} {t : Turn σ}
    (other : t.concerns c = false) :
    (∃ qs : List (DriverCall σ), (∀ q ∈ qs, q.concerns c = false) ∧
      (e.perform t).1.driver = DriverCall.applyAll e.driver qs) ∧
    (e.perform t).1.lanes.get c = e.lanes.get c ∧
    ∀ effect ∈ (e.perform t).2.effects, effect.scanClass ≠ c := by
  obtain ⟨now, operation⟩ := t
  cases operation with
  | start d settings handler =>
    simp only [Turn.concerns, Operation.concerns, decide_eq_false_iff_not] at other
    simp only [perform]
    cases started : e.start now d settings handler with
    | error error => exact ⟨⟨[], by simp, rfl⟩, rfl, by simp⟩
    | ok out =>
      -- The driver is commanded for the other class, which may change what it answers for it.
      obtain ⟨s, h, -, -, sound, idle, rfl⟩ := (start_eq_ok_iff ..).1 started
      refine ⟨⟨[.command d _ _], ?_, launch_driver e _⟩, ?_, ?_⟩
      · simpa [DriverCall.concerns] using other
      · exact launch_lanes_of_ne e _ (Ne.symm other)
      · intro effect member
        rw [(launch_lane e now d s h idle sound).scanClass_eq tagged effect member]
        exact other
  | driverEvent event =>
    simp only [Turn.concerns, Operation.concerns, decide_eq_false_iff_not] at other
    simp only [perform, onDriverEvent]
    split
    · cases event.kind with
      | resultsAvailable =>
        refine ⟨⟨_, ?_, complete_driver e now event.scanClass⟩,
          complete_lanes_of_ne e now (Ne.symm other), ?_⟩
        · split <;> simp [DriverCall.concerns, other]
        · intro effect member
          rw [(complete_lane e now event.scanClass).scanClass_eq tagged effect member]
          exact other
      | scanFailed =>
        refine ⟨⟨[], by simp, fail_driver ..⟩, fail_lanes_of_ne e _ (Ne.symm other), ?_⟩
        intro effect member
        rw [(fail_lane now event.scanClass _ rfl).scanClass_eq tagged effect member]
        exact other
    · exact ⟨⟨[], by simp, rfl⟩, rfl, by simp⟩
  | timeout tag =>
    simp only [Turn.concerns, Operation.concerns, decide_eq_false_iff_not] at other
    simp only [perform, onTimeout]
    split
    · refine ⟨⟨[], by simp, fail_driver ..⟩, fail_lanes_of_ne e _ (Ne.symm other), ?_⟩
      intro effect member
      rw [(fail_lane now tag.scanClass _ rfl).scanClass_eq tagged effect member]
      exact other
    · exact ⟨⟨[], by simp, rfl⟩, rfl, by simp⟩
  | failAll reason => cases other
  | script change => cases other

/-- An operation of a class, at two engines that the class cannot tell apart, does the same for the
class and calls the drivers alike. -/
theorem perform_own {e e' : Engine σ} {c : ScanClass} (alike : Alike c e e') (tagged : e.Tagged)
    (tagged' : e'.Tagged) {t : Turn σ} (own : t.concerns c = true) :
    (∃ qs : List (DriverCall σ), (∀ q ∈ qs, q.concerns c = true) ∧
      (∀ change, .script change ∈ qs → t.operation = .script change) ∧
      (e.perform t).1.driver = DriverCall.applyAll e.driver qs ∧
      (e'.perform t).1.driver = DriverCall.applyAll e'.driver qs) ∧
    (e.perform t).1.lanes.get c = (e'.perform t).1.lanes.get c ∧
    (e.perform t).2.forClass c = (e'.perform t).2.forClass c := by
  have flight : e.inFlight? c = e'.inFlight? c := congrArg Lane.inFlight alike.lane
  obtain ⟨now, operation⟩ := t
  cases operation with
  | start d settings handler =>
    simp only [Turn.concerns, Operation.concerns, decide_eq_true_eq] at own
    subst own
    simp only [perform]
    rcases start_alike alike now settings handler with
      ⟨error, started, started'⟩ | ⟨r, rfl, started, started'⟩
    · simp only [started, started']
      exact ⟨⟨[], by simp, by simp, rfl, rfl⟩, alike.lane, trivial⟩
    · simp only [started, started', (launch_alike alike).1]
      refine ⟨⟨[.command r.scanClass r.scanFrequencies r.settings.hiddenNetworkIds], ?_, by simp,
        launch_driver e r, launch_driver e' r⟩, (launch_alike alike).2, trivial⟩
      simp [DriverCall.concerns]
  | driverEvent event =>
    simp only [Turn.concerns, Operation.concerns, decide_eq_true_eq] at own
    subst own
    simp only [perform, onDriverEvent, alike.answers.interface]
    split
    · cases event.kind with
      | resultsAvailable =>
        -- Both fetch results or neither does, since they agree on whether a request is in flight.
        have scanning : e.isScanning event.scanClass = e'.isScanning event.scanClass := by
          rw [isScanning, flight, isScanning]
        have calls := complete_driver e now event.scanClass
        rw [scanning] at calls
        simp only [(complete_alike alike now).1]
        refine ⟨⟨_, ?_, ?_, calls, complete_driver e' now event.scanClass⟩,
          (complete_alike alike now).2, trivial⟩
        · split <;> simp [DriverCall.concerns]
        · split <;> simp
      | scanFailed =>
        simp only [(fail_alike alike.lane _).1]
        exact ⟨⟨[], by simp, by simp, fail_driver .., fail_driver ..⟩,
          (fail_alike alike.lane _).2, trivial⟩
    · exact ⟨⟨[], by simp, by simp, rfl, rfl⟩, alike.lane, rfl⟩
  | timeout tag =>
    simp only [Turn.concerns, Operation.concerns, decide_eq_true_eq] at own
    subst own
    simp only [perform, onTimeout, flight]
    split
    · simp only [(fail_alike alike.lane _).1]
      exact ⟨⟨[], by simp, by simp, fail_driver .., fail_driver ..⟩, (fail_alike alike.lane _).2,
        trivial⟩
    · exact ⟨⟨[], by simp, by simp, rfl, rfl⟩, alike.lane, rfl⟩
  | failAll reason =>
    -- What the other class is told is left out on both sides.
    simp only [perform, Outcome.forClass, failAll_effects_forClass tagged,
      failAll_effects_forClass tagged', failAll_lane, (fail_alike alike.lane reason).1]
    refine ⟨⟨[], by simp, by simp, ?_, ?_⟩, (fail_alike alike.lane reason).2, trivial⟩ <;>
      simp only [failAll_eq, fail_driver, DriverCall.applyAll, List.foldl_nil]
  | script change =>
    exact ⟨⟨[.script change], by simp [DriverCall.concerns], by simp, rfl, rfl⟩, alike.lane, rfl⟩

/-! ### Two runs -/

/-- A run and the run without the operations of the other class, at moments that correspond: all
that the class can see is the same, and the driver of the second has seen the calls of the first
that concern the class. -/
structure Coupled (c : ScanClass) (d : σ) (changes : (σ → σ) → Prop) (e e' : Engine σ) : Prop where
  config : e.config = e'.config
  lane : e.lanes.get c = e'.lanes.get c
  tagged : e.Tagged
  tagged' : e'.Tagged
  drivers : ∃ qs : List (DriverCall σ), (∀ change, .script change ∈ qs → changes change) ∧
    e.driver = DriverCall.applyAll d qs ∧
    e'.driver = DriverCall.applyAll d (qs.filter (·.concerns c))

namespace Coupled

variable {c : ScanClass} {d : σ} {changes : (σ → σ) → Prop} {e e' : Engine σ}

theorem alike (coupled : Coupled c d changes e e') (alone : AnswersAlone c changes d) :
    Alike c e e' := by
  obtain ⟨qs, known, driver, driver'⟩ := coupled.drivers
  refine ⟨coupled.config, coupled.lane, ?_⟩
  rw [driver, driver']
  exact alone qs known

/-- An operation of the other class happens in the first run only. -/
theorem other (coupled : Coupled c d changes e e') {t : Turn σ} (other : t.concerns c = false) :
    Coupled c d changes (e.perform t).1 e' := by
  obtain ⟨⟨rs, elsewhere, calls⟩, lane, -⟩ := perform_other coupled.tagged other
  obtain ⟨qs, known, driver, driver'⟩ := coupled.drivers
  refine ⟨(perform_config e t).trans coupled.config, lane.trans coupled.lane,
    perform_tagged coupled.tagged t, coupled.tagged', qs ++ rs, ?_, ?_, ?_⟩
  · intro change member
    rcases List.mem_append.1 member with member | member
    · exact known change member
    · cases elsewhere _ member
  · rw [calls, driver, DriverCall.applyAll_append]
  · have unseen : rs.filter (·.concerns c) = [] :=
      List.filter_eq_nil_iff.2 fun q member => by simp [elsewhere q member]
    rw [driver', List.filter_append, unseen, List.append_nil]

/-- An operation of the class happens in both runs. -/
theorem own (coupled : Coupled c d changes e e') (alone : AnswersAlone c changes d) {t : Turn σ}
    (own : t.concerns c = true)
    (known : ∀ change, t.operation = .script change → changes change) :
    Coupled c d changes (e.perform t).1 (e'.perform t).1 := by
  obtain ⟨⟨rs, concerned, scripts, calls, calls'⟩, lane, -⟩ :=
    perform_own (coupled.alike alone) coupled.tagged coupled.tagged' own
  obtain ⟨qs, before, driver, driver'⟩ := coupled.drivers
  refine ⟨?_, lane, perform_tagged coupled.tagged t, perform_tagged coupled.tagged' t, qs ++ rs,
    ?_, ?_, ?_⟩
  · rw [perform_config, perform_config, coupled.config]
  · intro change member
    rcases List.mem_append.1 member with member | member
    · exact before change member
    · exact known change (scripts change member)
  · rw [calls, driver, DriverCall.applyAll_append]
  · rw [calls', driver', List.filter_append, List.filter_eq_self.2 concerned,
      DriverCall.applyAll_append]

end Coupled

/-- Coupled engines stay coupled, and the operations left out brought nothing for the class. -/
theorem run_coupled {c : ScanClass} {d : σ} {changes : (σ → σ) → Prop}
    (alone : AnswersAlone c changes d) (ts : List (Turn σ)) {e e' : Engine σ}
    (coupled : Coupled c d changes e e') (known : ∀ change, Changes ts change → changes change) :
    Coupled c d changes (e.run ts).1 (e'.run (ts.filter (·.concerns c))).1 ∧
      broughtFor c ts (e.run ts).2 =
        (e'.run (ts.filter (·.concerns c))).2.map (Outcome.forClass c) ∧
      ∀ p ∈ ts.zip (e.run ts).2, p.1.concerns c = false →
        ∀ effect ∈ p.2.effects, effect.scanClass ≠ c := by
  induction ts generalizing e e' with
  | nil => exact ⟨coupled, rfl, by simp⟩
  | cons t ts ih =>
    have rest : ∀ change, Changes ts change → changes change := fun change ⟨u, member, op⟩ =>
      known change ⟨u, List.mem_cons_of_mem _ member, op⟩
    have here : ∀ change, t.operation = .script change → changes change := fun change op =>
      known change ⟨t, List.mem_cons_self, op⟩
    cases concerned : t.concerns c with
    | true =>
      -- Both runs perform the operation.
      obtain ⟨coupled', brought, left⟩ := ih (coupled.own alone concerned here) rest
      have same := (perform_own (coupled.alike alone) coupled.tagged coupled.tagged' concerned).2.2
      simp only [List.filter_cons_of_pos concerned, run, broughtFor_cons, concerned, if_true,
        List.zip_cons_cons, List.map_cons, List.forall_mem_cons, brought, same]
      refine ⟨coupled', trivial, ?_, left⟩
      intro other
      cases other
    | false =>
      -- Only the first run performs the operation.
      obtain ⟨coupled', brought, left⟩ := ih (coupled.other concerned) rest
      have deleted : ¬t.concerns c = true := by simp [concerned]
      simp only [List.filter_cons_of_neg deleted, run, broughtFor_cons, concerned,
        Bool.false_eq_true, if_false, List.zip_cons_cons, List.forall_mem_cons, brought]
      exact ⟨coupled', trivial, fun _ => (perform_other coupled.tagged concerned).2.2, left⟩

end Driver

end Engine

section Runs

variable [ScanDriver σ]

/-- What it means that a class does not notice the other in a run: the run without the operations
of the other class is the same for the class. -/
structure Independent (c : ScanClass) (e : Engine σ) (ts : List (Turn σ)) : Prop where
  /-- After each part of the run, the number of the last request, the request in flight and the
  latest results are the same. -/
  lane : ∀ k, (e.run (ts.take k)).1.lanes.get c =
    (e.run ((ts.take k).filter (·.concerns c))).1.lanes.get c
  /-- Each operation that stays has the same answer and the same effects for the class: the calls on
  the driver, on the timers and on handlers, in the same order. -/
  outcomes : broughtFor c ts (e.run ts).2 =
    (e.run (ts.filter (·.concerns c))).2.map (Outcome.forClass c)
  /-- The operations that are left out have no effects for the class. -/
  elsewhere : ∀ p ∈ ts.zip (e.run ts).2, p.1.concerns c = false →
    ∀ effect ∈ p.2.effects, effect.scanClass ≠ c

/-- A run without the operations of the other class is the same run for a class, if the driver
answers for the class without regard to the other. -/
theorem class_independence (config : EngineConfig) (driver : σ) (ts : List (Turn σ))
    (c : ScanClass) (alone : AnswersAlone c (Changes ts) driver) :
    Independent c (Engine.initial config driver) ts := by
  have coupled : Engine.Coupled c driver (Changes ts) (Engine.initial config driver)
      (Engine.initial config driver) :=
    ⟨rfl, rfl, Engine.tagged_initial config driver,
      Engine.tagged_initial config driver, [], by simp, rfl, rfl⟩
  -- What the class is left with is asked for after each part of the run, each a run of its own.
  have whole := Engine.run_coupled alone ts coupled fun _ => id
  have part (k : Nat) := Engine.run_coupled alone (ts.take k) coupled
    fun change ⟨t, member, op⟩ => ⟨t, List.mem_of_mem_take member, op⟩
  exact ⟨fun k => (part k).1.lane, whole.2.1, whole.2.2⟩

/-- Requests of both classes in flight at the same time, at a virtual driver that starts to refuse
commands: the background scan times out and its successor is refused, the single scan completes. -/
def crossingTurns : List (Turn VirtualDriver) :=
  let settings := (ScanSettings.empty.withMaxApPerScan 4).addBucket
    ⟨30000, .afterEachScan, .band .ghz24⟩
  [⟨100, .start .background (some settings) (some "b")⟩,
    ⟨200, .start .single (some settings) (some "s")⟩,
    ⟨300, .script (·.setAccepting false)⟩,
    ⟨400, .timeout ⟨.background, 1⟩⟩,
    ⟨500, .start .background (some settings) (some "b")⟩,
    ⟨600, .driverEvent ⟨"wlan0", .single, .resultsAvailable⟩⟩,
    ⟨700, .failAll .scannerStopped⟩]

private theorem answersAlone_crossing :
    AnswersAlone .single (Changes crossingTurns) (VirtualDriver.initial .standard) := by
  refine (VirtualDriver.answersAlone _ _).mono fun change ⟨t, member, op⟩ => ?_
  simp only [crossingTurns, List.mem_cons, List.not_mem_nil, or_false] at member
  rcases member with rfl | rfl | rfl | rfl | rfl | rfl | rfl <;> cases op
  exact ⟨.accepting false, rfl⟩

/-- The single scan among these requests is the same without the background scans. -/
theorem class_independence_crossing :
    AnswersAlone .single (Changes crossingTurns) (VirtualDriver.initial .standard) ∧
      Independent .single (Engine.initial .standard (VirtualDriver.initial .standard))
        crossingTurns :=
  ⟨answersAlone_crossing, class_independence .standard (VirtualDriver.initial .standard)
    crossingTurns .single answersAlone_crossing⟩

end Runs

end WifiScan

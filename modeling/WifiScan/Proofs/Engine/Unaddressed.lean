import WifiScan.Proofs.Engine.ClassLog

/-!
# Signals without an addressee

Drivers and timers tell the engine of scans that may be over, or that are not its own. A signal that
is meant for no request in flight does nothing at all: the engine, its driver included, stays as it
was, and nobody hears of it.

## Main result

`unaddressed_signals_vanish`: a signal does nothing exactly if it has no addressee; to leave such
signals out of a run changes neither where it leads nor what the other operations bring; and a
signal that comes twice in a row does nothing the second time.

## Proof strategy

Requests have the class of their lane (`Tagged`), so a tag that no request in flight has differs
from that of the class's request in its number (`perform_of_unaddressed`). A signal ends all
requests that it is meant for, and so it has no addressee any more (`unaddressed_again`).
-/
namespace WifiScan

variable {σ : Type}

/-- Whether an operation tells the engine that something has happened: to a scan, to a timer, or to
the scanner. -/
def Operation.isSignal : Operation σ → Bool
  | driverEvent _ | timeout _ | failAll _ => true
  | start .. | script _ => false

/-- Nothing was done. -/
def Outcome.nothing : Outcome := ⟨.ok (), []⟩

/-- A list without what stands at the places to be left out. -/
def leaveOut {α : Type} (out : Nat → Bool) : List α → List α
  | [] => []
  | a :: l =>
    let rest := leaveOut (fun i => out (i + 1)) l
    if out 0 then rest else a :: rest

namespace Engine

section Idle

variable {e : Engine σ} {c : ScanClass}

theorem fail_of_idle (idle : e.inFlight? c = none) (reason : FailureReason) :
    e.fail c reason = (e, []) := by
  have at? : (e.lanes.get c).inFlight = none := idle
  simp only [fail, at?]

theorem fail_of_inFlight {r : Request} (flight : e.inFlight? c = some r)
    (reason : FailureReason) : (e.fail c reason).2 ≠ [] := by
  have at? : (e.lanes.get c).inFlight = some r := flight
  simp [fail, at?]

theorem fail_inFlight? (e : Engine σ) (c : ScanClass) (reason : FailureReason) :
    (e.fail c reason).1.inFlight? c = none := by
  unfold fail
  dsimp only
  split
  next idle => exact idle
  next => simp only [inFlight?, PerClass.get_set_self]

theorem failAll_inFlight? (e : Engine σ) (c : ScanClass) (reason : FailureReason) :
    (e.failAll reason).1.inFlight? c = none := by
  simp only [failAll_eq]
  cases c with
  | single =>
    rw [inFlight?, fail_lanes_of_ne _ _ (by decide)]
    exact fail_inFlight? e .single reason
  | background => exact fail_inFlight? _ .background reason

theorem failAll_of_idle (idle : ∀ c, e.inFlight? c = none) (reason : FailureReason) :
    e.failAll reason = (e, []) := by
  simp only [failAll_eq, fail_of_idle (idle _), List.append_nil]

theorem failAll_of_inFlight {r : Request} (flight : e.inFlight? c = some r)
    (reason : FailureReason) : (e.failAll reason).2 ≠ [] := by
  simp only [failAll_eq, ne_eq, List.append_eq_nil_iff, not_and_or]
  cases c with
  | single => exact Or.inl (fail_of_inFlight flight reason)
  | background =>
    -- The request is still there when the single scan has been failed.
    refine Or.inr (fail_of_inFlight (r := r) ?_ reason)
    rw [inFlight?, fail_lanes_of_ne _ _ (by decide)]
    exact flight

variable [ScanDriver σ]

theorem complete_of_idle (idle : e.inFlight? c = none) (now : UInt64) :
    e.complete now c = (e, []) := by
  have at? : (e.lanes.get c).inFlight = none := idle
  simp only [complete, at?]

theorem complete_of_inFlight {r : Request} (flight : e.inFlight? c = some r) (now : UInt64) :
    (e.complete now c).2 ≠ [] := by
  have at? : (e.lanes.get c).inFlight = some r := flight
  simp [complete, at?]

theorem complete_inFlight? (e : Engine σ) (now : UInt64) (c : ScanClass) :
    (e.complete now c).1.inFlight? c = none := by
  unfold complete
  dsimp only
  split
  next idle => exact idle
  next => simp only [inFlight?, PerClass.get_set_self]

end Idle

variable [ScanDriver σ]

/-- A signal that is meant for no request in flight. -/
inductive Unaddressed (e : Engine σ) : Operation σ → Prop where
  | foreign {event : DriverEvent} (other : event.interface ≠ ScanDriver.interface e.driver) :
      Unaddressed e (.driverEvent event)
  | idle {event : DriverEvent} (idle : e.inFlight? event.scanClass = none) :
      Unaddressed e (.driverEvent event)
  | stale {tag : TimerTag} (nobody : ∀ c r, e.inFlight? c = some r → r.tag ≠ tag) :
      Unaddressed e (.timeout tag)
  | allIdle {reason : FailureReason} (idle : ∀ c, e.inFlight? c = none) :
      Unaddressed e (.failAll reason)

/-! ### One signal -/

theorem onDriverEvent_of_idle {e : Engine σ} {event : DriverEvent}
    (idle : e.inFlight? event.scanClass = none) (now : UInt64) :
    e.onDriverEvent now event = (e, []) := by
  unfold onDriverEvent
  cases event.kind with
  | resultsAvailable => rw [complete_of_idle idle, ite_self]
  | scanFailed => rw [fail_of_idle idle, ite_self]

omit [ScanDriver σ] in
/-- A timer finds the request with its tag, of whichever class. -/
theorem finds_iff {e : Engine σ} (tagged : e.Tagged) (tag : TimerTag) :
    (e.inFlight? tag.scanClass).any (·.epoch = tag.epoch) = true ↔
      ∃ c r, e.inFlight? c = some r ∧ r.tag = tag := by
  simp only [Option.any_eq_true, decide_eq_true_eq]
  constructor
  · rintro ⟨r, flight, epoch⟩
    exact ⟨tag.scanClass, r, flight, by rw [Request.tag, tagged _ r flight, epoch]⟩
  · rintro ⟨c, r, flight, rfl⟩
    obtain rfl := tagged c r flight
    exact ⟨r, flight, rfl⟩

omit [ScanDriver σ] in
theorem onTimeout_of_stale {e : Engine σ} (tagged : e.Tagged) {tag : TimerTag}
    (nobody : ∀ c r, e.inFlight? c = some r → r.tag ≠ tag) : e.onTimeout tag = (e, []) := by
  refine if_neg fun found => ?_
  obtain ⟨c, r, flight, own⟩ := (finds_iff tagged tag).1 found
  exact nobody c r flight own

theorem perform_of_unaddressed {e : Engine σ} (tagged : e.Tagged) {t : Turn σ}
    (unaddressed : e.Unaddressed t.operation) : e.perform t = (e, .nothing) := by
  obtain ⟨now, operation⟩ := t
  cases unaddressed with
  | foreign other => simp only [perform, onDriverEvent, if_neg other, Outcome.nothing]
  | idle idle => simp only [perform, onDriverEvent_of_idle idle, Outcome.nothing]
  | stale nobody => simp only [perform, onTimeout_of_stale tagged nobody, Outcome.nothing]
  | allIdle idle => simp only [perform, failAll_of_idle idle, Outcome.nothing]

/-- A signal that is meant for a request in flight is not without effects. -/
theorem effects_of_addressed {e : Engine σ} (tagged : e.Tagged) {t : Turn σ}
    (signal : t.operation.isSignal = true) (addressed : ¬e.Unaddressed t.operation) :
    (e.perform t).2.effects ≠ [] := by
  obtain ⟨now, operation⟩ := t
  -- A signal that is addressed finds a request, and to end it is to tell somebody.
  cases operation with
  | start c settings handler => cases signal
  | driverEvent event =>
    have own : event.interface = ScanDriver.interface e.driver := by
      by_contra other
      exact addressed (.foreign other)
    obtain ⟨r, flight⟩ := Option.ne_none_iff_exists'.1 fun idle => addressed (.idle idle)
    simp only [perform, onDriverEvent, if_pos own]
    cases event.kind with
    | resultsAvailable => exact complete_of_inFlight flight now
    | scanFailed => exact fail_of_inFlight flight .driverFailed
  | timeout tag =>
    have meant : ∃ c r, e.inFlight? c = some r ∧ r.tag = tag := by
      by_contra nobody
      exact addressed (.stale fun c r flight own => nobody ⟨c, r, flight, own⟩)
    have found := (finds_iff tagged tag).2 meant
    obtain ⟨r, flight, -⟩ := (Option.any_eq_true ..).1 found
    simp only [perform, onTimeout, if_pos found]
    exact fail_of_inFlight flight .timedOut
  | failAll reason =>
    have busy : ∃ c r, e.inFlight? c = some r := by
      by_contra nobody
      refine addressed (.allIdle fun c => Option.eq_none_iff_forall_ne_some.2 ?_)
      exact fun r flight => nobody ⟨c, r, flight⟩
    obtain ⟨c, r, flight⟩ := busy
    exact failAll_of_inFlight flight reason
  | script change => cases signal

/-- A signal that has just come has no addressee. -/
theorem unaddressed_again {e : Engine σ} (tagged : e.Tagged) {t : Turn σ}
    (signal : t.operation.isSignal = true) :
    (e.perform t).1.Unaddressed t.operation := by
  obtain ⟨now, operation⟩ := t
  -- Whatever request the signal found has ended.
  cases operation with
  | start c settings handler => cases signal
  | driverEvent event =>
    by_cases own : event.interface = ScanDriver.interface e.driver
    · refine .idle ?_
      simp only [perform, onDriverEvent, if_pos own]
      cases event.kind with
      | resultsAvailable => exact complete_inFlight? e now event.scanClass
      | scanFailed => exact fail_inFlight? e event.scanClass .driverFailed
    · simp only [perform, onDriverEvent, if_neg own]
      exact .foreign own
  | timeout tag =>
    have tagged' := perform_tagged tagged ⟨now, .timeout tag⟩
    apply Unaddressed.stale
    intro c r flight own
    obtain rfl : tag.scanClass = c := own ▸ tagged' c r flight
    simp only [perform, onTimeout] at flight
    split at flight
    next => cases (fail_inFlight? ..).symm.trans flight
    next missed => exact missed ((finds_iff tagged tag).2 ⟨tag.scanClass, r, flight, own⟩)
  | failAll reason => exact .allIdle fun c => failAll_inFlight? e c reason
  | script change => cases signal

/-! ### Runs without them -/

theorem run_leaveOut {e : Engine σ} (tagged : e.Tagged) (out : Nat → Bool) (ts : List (Turn σ))
    (unaddressed : ∀ i t, ts[i]? = some t → out i = true →
      (e.run (ts.take i)).1.Unaddressed t.operation) :
    e.run (leaveOut out ts) = ((e.run ts).1, leaveOut out (e.run ts).2) ∧
      effectsOf (leaveOut out (e.run ts).2) = effectsOf (e.run ts).2 := by
  induction ts generalizing e out with
  | nil => exact ⟨rfl, rfl⟩
  | cons t ts ih =>
    obtain ⟨ran, effects⟩ := ih (perform_tagged tagged t) (fun i => out (i + 1))
      fun i t' at? leave => unaddressed (i + 1) t' at? leave
    -- A turn that is left out has changed nothing and told nothing, so the rest runs as before.
    cases leave : out 0 with
    | true =>
      have silent := perform_of_unaddressed tagged (unaddressed 0 t rfl leave)
      simp only [leaveOut, leave, if_true, run, silent] at ran effects ⊢
      exact ⟨ran, effects⟩
    | false =>
      simp only [leaveOut, leave, Bool.false_eq_true, if_false, run, ran]
      exact ⟨trivial, congrArg ((e.perform t).2.effects ++ ·) effects⟩

end Engine

/-- What signals without an addressee come to. -/
structure SignalsVanish [ScanDriver σ] (e : Engine σ) : Prop where
  /-- Exactly those without an addressee do nothing to the engine and to anybody else. -/
  nothing : ∀ t : Turn σ, t.operation.isSignal = true →
    (e.Unaddressed t.operation ↔ e.perform t = (e, .nothing))
  /-- A run without some of them leads to the same engine, with the same outcomes of everything
  else. -/
  leftOut : ∀ (ts : List (Turn σ)) (out : Nat → Bool),
    (∀ i t, ts[i]? = some t → out i = true →
      (e.run (ts.take i)).1.Unaddressed t.operation) →
    e.run (leaveOut out ts) = ((e.run ts).1, leaveOut out (e.run ts).2) ∧
      effectsOf (e.run (leaveOut out ts)).2 = effectsOf (e.run ts).2
  /-- A signal that comes again does nothing, whatever it did and whatever the time is. -/
  again : ∀ (t : Turn σ) (now : UInt64), t.operation.isSignal = true →
    (e.perform t).1.perform ⟨now, t.operation⟩ = ((e.perform t).1, .nothing)

/-- Whatever has happened to an engine, signals that are meant for no request in flight do
nothing. -/
theorem unaddressed_signals_vanish [ScanDriver σ] (config : EngineConfig) (driver : σ)
    (before : List (Turn σ)) : SignalsVanish ((Engine.initial config driver).run before).1 := by
  have tagged := Engine.run_tagged (Engine.tagged_initial config driver) before
  generalize ((Engine.initial config driver).run before).1 = e at tagged
  constructor
  · intro t signal
    refine ⟨Engine.perform_of_unaddressed tagged, fun silent => ?_⟩
    by_contra addressed
    refine Engine.effects_of_addressed tagged signal addressed ?_
    rw [silent]
    rfl
  · intro ts out unaddressed
    obtain ⟨ran, effects⟩ := Engine.run_leaveOut tagged out ts unaddressed
    rw [ran]
    exact ⟨rfl, effects⟩
  · intro t now signal
    exact Engine.perform_of_unaddressed (Engine.perform_tagged tagged t)
      (t := ⟨now, t.operation⟩) (Engine.unaddressed_again tagged signal)

end WifiScan

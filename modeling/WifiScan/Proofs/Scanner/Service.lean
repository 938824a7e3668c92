import Mathlib.Data.List.Basic
import WifiScan.Proofs.Engine.Run
import WifiScan.Scanner.Basic

/-!
# What reaches a scanner

A scanner receives commands one after another, from whoever holds a handle on it, and stops at the
first shutdown or when it is dropped. Until then each delivery is one operation of its engine, and
afterwards it is none (`receiveAll_engine`, `receiveAll_effects`). So laws about runs of the engine
are laws about scanners.
-/
namespace WifiScan

variable {σ : Type}

/-- What reaches a scanner: a command, at a time and a reading of the clock, or a change made to its
driver from outside. -/
inductive Delivery (σ : Type) where
  | command (time : Nat) (now : UInt64) (command : Command)
  | script (change : σ → σ)

/-- What a delivery brought: the answer to its sender, and the effects in order. -/
structure Served where
  answer : Answer
  effects : List Effect

/-- The calls on handlers that a delivery led to. -/
def Served.told (v : Served) : List (Handler × ScanEvent) := v.effects.filterMap Effect.told?

namespace Delivery

/-- Whether the scanner goes on after the delivery. -/
def isLive : Delivery σ → Bool
  | command _ _ .shutdown => false
  | _ => true

/-- The operation of the engine that a delivery is, at a scanner that runs or has stopped. -/
def turn (running : Bool) : Delivery σ → Turn σ
  | script change => ⟨0, .script change⟩
  | command _ now c =>
    if running then
      match c with
      | .start c settings handler => ⟨now, .start c settings handler⟩
      | .driverEvent event => ⟨now, .driverEvent event⟩
      | .timerFired tag => ⟨now, .timeout tag⟩
      -- Queries do nothing, which is to change the driver by nothing.
      | .latest _ | .scanning _ => ⟨now, .script id⟩
      | .shutdown => ⟨now, .failAll .scannerStopped⟩
    else ⟨now, .script id⟩

/-- The operations of the engine that deliveries are. -/
def turns : Bool → List (Delivery σ) → List (Turn σ)
  | _, [] => []
  | running, d :: ds => d.turn running :: turns (running && d.isLive) ds

/-- Whether no shutdown stands before a position. -/
def liveAt (ds : List (Delivery σ)) (i : Nat) : Bool := (ds.take i).all isLive

theorem length_turns (running : Bool) (ds : List (Delivery σ)) :
    (turns running ds).length = ds.length := by
  induction ds generalizing running with
  | nil => rfl
  | cons d ds ih => simp only [turns, List.length_cons, ih]

theorem take_turns (running : Bool) (ds : List (Delivery σ)) (i : Nat) :
    (turns running ds).take i = turns running (ds.take i) := by
  induction ds generalizing running i with
  | nil => simp only [turns, List.take_nil]
  | cons d ds ih =>
    cases i with
    | zero => rfl
    | succ i => simp only [turns, List.take_succ_cons, ih]

theorem getElem?_turns (running : Bool) (ds : List (Delivery σ)) (i : Nat) :
    (turns running ds)[i]? = (ds[i]?).map (turn (running && liveAt ds i)) := by
  induction ds generalizing running i with
  | nil => rfl
  | cons d ds ih =>
    cases i with
    | zero => simp [turns, liveAt]
    | succ i =>
      simp only [turns, List.getElem?_cons_succ, ih, liveAt, List.take_succ_cons, List.all_cons,
        Bool.and_assoc]

end Delivery

namespace Scanner

theorem stop_running (s : Scanner σ) : s.stop.1.running = false := by
  cases running : s.running <;> simp [stop, running]

section Driver

variable [ScanDriver σ] [Wait]

def receive (s : Scanner σ) : Delivery σ → Scanner σ × Served
  | .command time now c =>
    let (s, effects, answer) := s.serve time now c
    (s, ⟨answer, effects⟩)
  | .script change =>
    ({ s with engine := { s.engine with driver := change s.engine.driver } }, ⟨.ok .done, []⟩)

/-- Receives deliveries in order. -/
def receiveAll (s : Scanner σ) : List (Delivery σ) → Scanner σ × List Served
  | [] => (s, [])
  | d :: ds =>
    let (s, served) := s.receive d
    let (s, more) := receiveAll s ds
    (s, served :: more)

theorem receiveAll_append (s : Scanner σ) (ds es : List (Delivery σ)) :
    s.receiveAll (ds ++ es) =
      (((s.receiveAll ds).1.receiveAll es).1,
        (s.receiveAll ds).2 ++ ((s.receiveAll ds).1.receiveAll es).2) := by
  induction ds generalizing s with
  | nil => rfl
  | cons d ds ih => simp only [List.cons_append, receiveAll, ih]

/-- What a delivery brings is found by receiving it after those before it. -/
theorem getElem?_receiveAll (s : Scanner σ) (ds : List (Delivery σ)) (i : Nat) :
    (s.receiveAll ds).2[i]? =
      (ds[i]?).map fun d => ((s.receiveAll (ds.take i)).1.receive d).2 := by
  induction ds generalizing s i with
  | nil => rfl
  | cons d ds ih =>
    cases i with
    | zero => rfl
    | succ i => simp only [receiveAll, List.getElem?_cons_succ, ih, List.take_succ_cons]

/-! ### Deliveries are operations of the engine -/

theorem receive_running (s : Scanner σ) (d : Delivery σ) :
    (s.receive d).1.running = (s.running && d.isLive) := by
  cases d with
  | script change => simp [receive, Delivery.isLive]
  | command time now c =>
    cases running : s.running with
    | false => simp [receive, serve, running]
    | true =>
      cases c with
      | start c settings handler =>
        simp only [receive, serve, running, if_true, Delivery.isLive]
        cases s.engine.start now c settings handler <;> simp [after, running]
      | shutdown => simp [receive, serve, stop, running, Delivery.isLive]
      | _ => simp [receive, serve, after, running, Delivery.isLive]

theorem receive_eq_perform (s : Scanner σ) (d : Delivery σ) :
    (s.receive d).1.engine = (s.engine.perform (d.turn s.running)).1 ∧
      (s.receive d).2.effects = (s.engine.perform (d.turn s.running)).2.effects := by
  cases d with
  | script change => exact ⟨rfl, rfl⟩
  | command time now c =>
    cases running : s.running with
    | false =>
      -- Nothing is served any more.
      simp [receive, serve, running, Delivery.turn, Engine.perform]
    | true =>
      cases c with
      | start c settings handler =>
        simp only [receive, serve, running, if_true, Delivery.turn, Engine.perform]
        cases s.engine.start now c settings handler <;> exact ⟨rfl, rfl⟩
      | shutdown => simp [receive, serve, stop, running, Delivery.turn, Engine.perform]
      | _ => simp [receive, serve, after, running, Delivery.turn, Engine.perform]

theorem receiveAll_running (s : Scanner σ) (ds : List (Delivery σ)) :
    (s.receiveAll ds).1.running = (s.running && ds.all Delivery.isLive) := by
  induction ds generalizing s with
  | nil => simp [receiveAll]
  | cons d ds ih => simp only [receiveAll, ih, receive_running, List.all_cons, Bool.and_assoc]

theorem receiveAll_engine (s : Scanner σ) (ds : List (Delivery σ)) :
    (s.receiveAll ds).1.engine = (s.engine.run (Delivery.turns s.running ds)).1 := by
  induction ds generalizing s with
  | nil => rfl
  | cons d ds ih =>
    simp only [receiveAll, Delivery.turns, Engine.run, ih, receive_running,
      (s.receive_eq_perform d).1]

theorem receiveAll_effects (s : Scanner σ) (ds : List (Delivery σ)) :
    (s.receiveAll ds).2.map Served.effects =
      (s.engine.run (Delivery.turns s.running ds)).2.map Outcome.effects := by
  induction ds generalizing s with
  | nil => rfl
  | cons d ds ih =>
    simp only [receiveAll, Delivery.turns, Engine.run, List.map_cons, ih, receive_running,
      (s.receive_eq_perform d).1, (s.receive_eq_perform d).2]

/-- A start is answered as the engine answers it, or else the scanner has stopped and does nothing
with it. -/
theorem receive_start (s : Scanner σ) (time : Nat) (now : UInt64) (c : ScanClass)
    (settings : Option ScanSettings) (handler : Option Handler) :
    (s.receive (.command time now (.start c settings handler))).2 =
      if s.running then
        match s.engine.start now c settings handler with
        | .error error => ⟨.error error, []⟩
        | .ok (_, effects) => ⟨.ok .done, effects⟩
      else ⟨.error .unavailable, []⟩ := by
  cases running : s.running with
  | false => simp [receive, serve, running, Command.unserved]
  | true =>
    simp only [receive, serve, running, if_true]
    cases s.engine.start now c settings handler <;> rfl

/-! ### The end of a scanner -/

/-- To stop is to receive a shutdown. -/
theorem receive_shutdown (s : Scanner σ) (time : Nat) (now : UInt64) :
    s.receive (.command time now .shutdown) = (s.stop.1, ⟨.ok .done, s.stop.2⟩) := by
  cases running : s.running with
  | false => simp [receive, serve, stop, running, Command.unserved]
  | true => simp [receive, serve, running]

/-- A scanner that has stopped does nothing with what it receives. -/
theorem receiveAll_stopped (s : Scanner σ) (stopped : s.running = false)
    (ds : List (Delivery σ)) : ∀ v ∈ (s.receiveAll ds).2, v.effects = [] := by
  induction ds generalizing s with
  | nil => simp [receiveAll]
  | cons d ds ih =>
    have still : (s.receive d).1.running = false := by rw [receive_running, stopped, Bool.false_and]
    have silent : (s.receive d).2.effects = [] := by
      cases d with
      | script change => rfl
      | command time now c => simp [receive, serve, stopped]
    simp only [receiveAll, List.mem_cons, forall_eq_or_imp]
    exact ⟨silent, ih _ still⟩

end Driver

end Scanner

end WifiScan

import Mathlib.Data.List.Nodup
import WifiScan.Proofs.Engine.Blocks
import WifiScan.Proofs.Engine.Unaddressed
import WifiScan.Proofs.Scanner.Service

/-!
# How the starts of a scanner end

A scanner's life is the deliveries that it receives and its stop, by a shutdown among them or, after
the last of them, because nobody can command it any more. Each start then has one of three fates.
Calls on handlers are ascribed to starts by their positions, as in runs of the engine.

## Main result

`starts_end_once`: a start is admitted and told one status before the life ends, or it is refused
and told nothing, or it stands behind a shutdown, is never served, and is told nothing; after the
life nobody is told anything.
-/
namespace WifiScan

variable {σ : Type}

/-! ### Whose start it is -/

namespace Delivery

def rename (f : Handler → Handler) : Delivery σ → Delivery σ
  | command time now (.start c settings handler) =>
    command time now (.start c settings (handler.map f))
  | d => d

/-- The deliveries in which the start at each position has the handler `who` gives to it. -/
def attend (who : Nat → Handler) (ds : List (Delivery σ)) : List (Delivery σ) :=
  ds.mapIdx fun i d => d.rename fun _ => who i

/-- The handler of the start at a position. -/
def handlerAt (ds : List (Delivery σ)) (i : Nat) : Handler :=
  match ds[i]? with
  | some (.command _ _ (.start _ _ (some h))) => h
  | _ => ""

theorem isLive_rename (f : Handler → Handler) (d : Delivery σ) :
    (d.rename f).isLive = d.isLive := by
  unfold rename
  split <;> rfl

theorem turn_rename (f : Handler → Handler) (running : Bool) (d : Delivery σ) :
    (d.rename f).turn running = (d.turn running).rename f := by
  cases d with
  | script change => rfl
  | command time now c => cases running <;> cases c <;> rfl

theorem liveAt_attend (who : Nat → Handler) (ds : List (Delivery σ)) (i : Nat) :
    liveAt (attend who ds) i = liveAt ds i := by
  induction ds using List.reverseRecOn with
  | nil => rfl
  | append_singleton ds d ih =>
    have length : (attend who ds).length = ds.length := List.length_mapIdx
    simp only [liveAt] at ih ⊢
    -- The position lies among the earlier deliveries, or the last one counts too.
    rw [attend, List.mapIdx_concat, ← attend, List.take_append, List.take_append, List.all_append,
      List.all_append, ih, length]
    cases i - ds.length <;> simp [isLive_rename]

/-- Giving handlers to starts gives them to the operations that the starts are. -/
theorem turns_attend (who : Nat → Handler) (ds : List (Delivery σ)) :
    turns true (attend who ds) = WifiScan.attend who (turns true ds) := by
  apply List.ext_getElem?
  intro i
  rw [getElem?_turns, liveAt_attend, attend, WifiScan.attend, List.getElem?_mapIdx,
    List.getElem?_mapIdx, getElem?_turns]
  cases ds[i]? with
  | none => rfl
  | some d => simp only [Option.map_some, turn_rename]

/-- Deliveries in which every start has its own handler again are the deliveries themselves. -/
theorem attend_handlerAt (ds : List (Delivery σ)) : attend (handlerAt ds) ds = ds := by
  apply List.ext_getElem?
  intro i
  rw [attend, List.getElem?_mapIdx]
  cases at? : ds[i]? with
  | none => rfl
  | some d =>
    cases d with
    | script change => rfl
    | command time now c =>
      cases c with
      | start c settings handler => cases handler <;> simp [rename, handlerAt, at?]
      | _ => rfl

end Delivery

/-! ### Lives and fates -/

/-- What a scanner did from one delivery to its stop. -/
structure Life (σ : Type) where
  /-- What each delivery brought. -/
  served : List Served
  /-- The effects of the stop after the last delivery. -/
  last : List Effect
  ended : Scanner σ

/-- Receives deliveries and stops. A shutdown among them has stopped the scanner already. -/
def Scanner.life [ScanDriver σ] [Wait] (s : Scanner σ) (ds : List (Delivery σ)) : Life σ :=
  let (s, served) := s.receiveAll ds
  let (s, last) := s.stop
  ⟨served, last, s⟩

/-- What becomes of a start. -/
inductive Fate where
  /-- It is served and answered without an error. -/
  | admitted
  /-- It is served and answered with an error. -/
  | refused
  /-- It waits behind a shutdown. -/
  | unserved
  deriving DecidableEq, Repr

/-- What a fate means for the start at a position: whether the scanner still ran, what its sender
was answered, and how many blocks of calls its handler got. -/
def Fate.Holds (ds : List (Delivery σ)) (served : List Served) (ledger : List (List Block))
    (i : Nat) : Fate → Prop
  | admitted =>
    Delivery.liveAt ds i = true ∧ (∃ effects, served[i]? = some ⟨.ok .done, effects⟩) ∧
      (owners ledger).count i = 1
  | refused =>
    Delivery.liveAt ds i = true ∧
      (∃ error, error ≠ ScanError.unavailable ∧ served[i]? = some ⟨.error error, []⟩) ∧
      (owners ledger).count i = 0
  | unserved =>
    Delivery.liveAt ds i = false ∧ served[i]? = some ⟨.error .unavailable, []⟩ ∧
      (owners ledger).count i = 0

/-- Whether a start is delivered at a position. -/
def StartAt (ds : List (Delivery σ)) (i : Nat) : Prop :=
  ∃ time now c settings handler, ds[i]? = some (.command time now (.start c settings handler))

/-- Whether the scanner stops at a position: at the first shutdown, or else after the last
delivery. -/
def StopsAt (ds : List (Delivery σ)) (k : Nat) : Prop :=
  Delivery.liveAt ds k = true ∧
    (k = ds.length ∨ ∃ time now, ds[k]? = some (.command time now .shutdown))

/-- A ledger of a scanner's life: the blocks told at each delivery, and those told at the stop after
the last. -/
structure Endings (who : Nat → Handler) (ds : List (Delivery σ)) (life : Life σ)
    (ledger : List (List Block)) : Prop where
  /-- The calls on handlers are those of the blocks. -/
  told : life.served.map Served.told ++ [life.last.filterMap Effect.told?] =
    ledger.map (List.flatMap (Block.told who))
  /-- Every start has exactly one fate. -/
  fate : ∀ i, StartAt ds i → ∃! fate : Fate, fate.Holds ds life.served ledger i
  /-- Only starts that were delivered have blocks. -/
  owned : ∀ b ∈ ledger.flatten, StartAt ds b.owner
  /-- No block is told before its start. -/
  timely : ∀ (k : Nat) blocks, ledger[k]? = some blocks → ∀ b ∈ blocks, b.owner ≤ k
  /-- Whoever is told something when the scanner stops is told that the scan failed. -/
  failed : ∀ k blocks, StopsAt ds k → ledger[k]? = some blocks →
    ∀ b ∈ blocks, b.reports = [] ∧ b.status = .failed
  /-- After the stop nobody is told anything. -/
  silent : ∀ k blocks, Delivery.liveAt ds k = false → ledger[k]? = some blocks → blocks = []

/-! ### Stopping -/

namespace Engine

theorem status_of_mem_fail (e : Engine σ) (c : ScanClass) (reason : FailureReason)
    {call : Handler × ScanEvent} (h : call ∈ (e.fail c reason).2.filterMap Effect.told?) :
    call.2 = .status .failed := by
  unfold fail at h
  dsimp only at h
  split at h
  · cases h
  next r _ =>
    simp only [List.filterMap_cons, Effect.told?, List.filterMap_nil, List.mem_singleton] at h
    subst h
    rfl

/-- Failing everything tells handlers of failures only. -/
theorem status_of_mem_failAll (e : Engine σ) (reason : FailureReason)
    {call : Handler × ScanEvent} (h : call ∈ (e.failAll reason).2.filterMap Effect.told?) :
    call.2 = .status .failed := by
  simp only [failAll_eq, List.filterMap_append, List.mem_append] at h
  rcases h with h | h
  · exact status_of_mem_fail e _ _ h
  · exact status_of_mem_fail _ _ _ h

/-- The engine knows nothing of a scanner that has stopped. -/
theorem start_ne_unavailable [ScanDriver σ] (e : Engine σ) (now : UInt64) (c : ScanClass)
    (settings : Option ScanSettings) (handler : Option Handler) :
    e.start now c settings handler ≠ .error .unavailable := by
  cases settings with
  | none => simp [start]
  | some s =>
    cases handler with
    | none => simp [start]
    | some h =>
      cases fault : s.fault? with
      | some fault => simp [start, ScanSettings.check, fault, bind, Except.bind]
      | none =>
        cases flight : e.inFlight? c <;>
          simp [start, ScanSettings.check, fault, isScanning, flight, bind, Except.bind, pure,
            Except.pure]

end Engine

namespace Scanner

/-- A scanner that has stopped has nothing in flight and no timer. -/
def Settled (s : Scanner σ) : Prop :=
  s.running = false → s.timers = .idle ∧ ∀ c, s.engine.inFlight? c = none

theorem stop_settled (s : Scanner σ) (settled : s.Settled) : s.stop.1.Settled := by
  intro _
  cases running : s.running with
  | true =>
    simp only [stop, running, if_true]
    exact ⟨trivial, fun c => s.engine.failAll_inFlight? c _⟩
  | false =>
    simp only [stop, running, Bool.false_eq_true, if_false]
    exact settled running

variable [ScanDriver σ] [Wait]

theorem receive_settled (s : Scanner σ) (settled : s.Settled) (d : Delivery σ) :
    (s.receive d).1.Settled := by
  intro stopped
  cases d with
  | script change => exact settled stopped
  | command time now c =>
    by_cases shutdown : c = .shutdown
    · subst shutdown
      rw [receive_shutdown] at stopped ⊢
      exact stop_settled s settled stopped
    · -- Nothing else stops a scanner, so it had stopped before.
      have live : (Delivery.command time now c : Delivery σ).isLive = true := by
        cases c with
        | shutdown => exact absurd rfl shutdown
        | _ => rfl
      rw [receive_running, live, Bool.and_true] at stopped
      simp only [receive, serve, stopped, Bool.false_eq_true, if_false]
      exact settled stopped

theorem receiveAll_settled (s : Scanner σ) (settled : s.Settled) (ds : List (Delivery σ)) :
    (s.receiveAll ds).1.Settled := by
  induction ds generalizing s with
  | nil => exact settled
  | cons d ds ih => exact ih _ (s.receive_settled settled d)

end Scanner

/-! ### The ledger of a life -/

/-- A shutdown after the last delivery; it stands for the stop. -/
private def lastShutdown : Delivery σ := .command 0 0 .shutdown

private theorem attend_lastShutdown (who : Nat → Handler) (ds : List (Delivery σ)) :
    Delivery.attend who (ds ++ [lastShutdown]) = Delivery.attend who ds ++ [lastShutdown] := by
  rw [Delivery.attend, List.mapIdx_concat]
  rfl

private theorem liveAt_lastShutdown (ds : List (Delivery σ)) (i : Nat) (h : i ≤ ds.length) :
    Delivery.liveAt (ds ++ [lastShutdown]) i = Delivery.liveAt ds i := by
  rw [Delivery.liveAt, List.take_append_of_le_length h, ← Delivery.liveAt]

/-- Only starts are admitted. -/
private theorem startAt_of_admittedAt {ds : List (Delivery σ)} {i : Nat}
    {outcomes : List Outcome} (admitted : AdmittedAt (Delivery.turns true ds) outcomes i) :
    StartAt ds i := by
  obtain ⟨t, _, c, s, h, at?, op, -⟩ := admitted
  rw [Delivery.getElem?_turns, Bool.true_and] at at?
  obtain ⟨d, delivered, rfl⟩ := Option.map_eq_some_iff.1 at?
  cases d with
  | script change => cases op
  | command time now command =>
    unfold Delivery.turn at op
    dsimp only at op
    split at op
    · cases command with
      | start d settings handler => exact ⟨time, now, d, settings, handler, delivered⟩
      | _ => cases op
    · cases op

/-- A block whose calls only tell of failures holds one status and nothing else. -/
private theorem failed_of_told {who : Nat → Handler} {bs : List Block}
    (told : ∀ call ∈ bs.flatMap (Block.told who), call.2 = .status .failed) :
    ∀ b ∈ bs, b.reports = [] ∧ b.status = .failed := by
  intro b member
  have calls : ∀ call ∈ b.told who, call.2 = .status .failed := fun call h =>
    told call (List.mem_flatMap.2 ⟨b, member, h⟩)
  simp only [Block.told, List.mem_append, List.mem_map, List.mem_singleton] at calls
  constructor
  · apply List.eq_nil_iff_forall_not_mem.2
    intro report h
    cases calls _ (Or.inl ⟨report, h, rfl⟩)
  · have status := calls _ (Or.inr rfl)
    injection status

/-- A start has at most one fate. -/
theorem Fate.Holds.unique {ds : List (Delivery σ)} {served : List Served}
    {ledger : List (List Block)} {i : Nat} {f g : Fate} (hf : f.Holds ds served ledger i)
    (hg : g.Holds ds served ledger i) : f = g := by
  cases f <;> cases g <;> simp_all [Fate.Holds]

section Life

variable [ScanDriver σ] [Wait] (config : EngineConfig) (driver : σ)

private theorem life_receiveAll (s : Scanner σ) (ds : List (Delivery σ)) :
    (s.receiveAll (ds ++ [lastShutdown])).2 =
      (s.life ds).served ++ [⟨.ok .done, (s.life ds).last⟩] := by
  rw [Scanner.receiveAll_append]
  simp only [Scanner.receiveAll, lastShutdown, Scanner.receive_shutdown, Scanner.life]

/-- The scanner before the delivery at a position. -/
private def before (ds : List (Delivery σ)) (i : Nat) : Scanner σ :=
  ((Scanner.initial config driver).receiveAll (ds.take i)).1

private theorem before_running (ds : List (Delivery σ)) (i : Nat) :
    (before config driver ds i).running = Delivery.liveAt ds i := by
  rw [before, Scanner.receiveAll_running]
  exact Bool.true_and _

private theorem before_engine (ds : List (Delivery σ)) (i : Nat) :
    (before config driver ds i).engine =
      ((Engine.initial config driver).run ((Delivery.turns true ds).take i)).1 := by
  rw [before, Scanner.receiveAll_engine, Delivery.take_turns]
  rfl

/-- What the engine does at a position, told by the scanner before it. -/
private theorem outcome_at (ds : List (Delivery σ)) (i : Nat) :
    ((Engine.initial config driver).run (Delivery.turns true ds)).2[i]? =
      (ds[i]?).map fun d =>
        ((before config driver ds i).engine.perform (d.turn (Delivery.liveAt ds i))).2 := by
  rw [Engine.getElem?_run, Delivery.getElem?_turns, ← before_engine, Option.map_map]
  rfl

/-- The start at a position is admitted exactly if the scanner still runs and the engine takes
it. -/
private theorem admittedAt_iff {ds : List (Delivery σ)} {i : Nat} {time : Nat} {now : UInt64}
    {c : ScanClass} {settings : Option ScanSettings} {handler : Option Handler}
    (at? : ds[i]? = some (.command time now (.start c settings handler))) :
    AdmittedAt (Delivery.turns true ds)
        ((Engine.initial config driver).run (Delivery.turns true ds)).2 i ↔
      Delivery.liveAt ds i = true ∧
        ∃ out, (before config driver ds i).engine.start now c settings handler = .ok out := by
  simp only [AdmittedAt, outcome_at, Delivery.getElem?_turns, at?, Option.map_some, Bool.true_and,
    Option.some.injEq]
  cases live : Delivery.liveAt ds i with
  | false => simp [Delivery.turn]
  | true =>
    simp only [Delivery.turn, if_true, Engine.perform, true_and]
    cases started : (before config driver ds i).engine.start now c settings handler with
    | error error => simp
    | ok out => simp

/-- Every start has the fate that its answer shows. -/
private theorem exists_fate {ds : List (Delivery σ)} {ledger : List (List Block)} {i : Nat}
    (once : (owners ledger).Nodup)
    (told_iff : i ∈ owners ledger ↔
      AdmittedAt (Delivery.turns true (ds ++ [lastShutdown]))
        ((Engine.initial config driver).run (Delivery.turns true (ds ++ [lastShutdown]))).2 i)
    (start : StartAt ds i) :
    ∃! fate : Fate, fate.Holds ds ((Scanner.initial config driver).life ds).served ledger i := by
  refine existsUnique_of_exists_of_unique ?_ fun _ _ => Fate.Holds.unique
  obtain ⟨time, now, c, settings, handler, at?⟩ := start
  have lt := (List.getElem?_eq_some_iff.1 at?).1
  have later : (ds ++ [lastShutdown])[i]? =
      some (.command time now (.start c settings handler)) := by
    rw [List.getElem?_append_left lt, at?]
  have same : before config driver (ds ++ [lastShutdown]) i = before config driver ds i := by
    rw [before, List.take_append_of_le_length (Nat.le_of_lt lt), ← before]
  rw [admittedAt_iff config driver later, same, liveAt_lastShutdown ds i (Nat.le_of_lt lt)]
    at told_iff
  have served : ((Scanner.initial config driver).life ds).served[i]? =
      some (((before config driver ds i).receive
        (.command time now (.start c settings handler))).2) := by
    simp only [Scanner.life, Scanner.getElem?_receiveAll, at?, Option.map_some]
    rfl
  rw [Scanner.receive_start, before_running] at served
  have known := (before config driver ds i).engine.start_ne_unavailable now c settings handler
  cases live : Delivery.liveAt ds i with
  | false =>
    -- A shutdown stands before it.
    simp only [live, Bool.false_eq_true, if_false, false_and, iff_false] at served told_iff
    exact ⟨.unserved, live, served, List.count_eq_zero.2 told_iff⟩
  | true =>
    cases started : (before config driver ds i).engine.start now c settings handler with
    | error error =>
      -- It is answered with the error of the engine, which is not that of a stopped scanner.
      simp only [live, started, if_true, reduceCtorEq, exists_false, and_false, iff_false]
        at served told_iff
      rw [started] at known
      exact ⟨.refused, live, ⟨error, fun h => known (by rw [h]), served⟩,
        List.count_eq_zero.2 told_iff⟩
    | ok out =>
      -- It is told or pending, and nothing is pending at the end of a life.
      simp only [live, started, if_true, Except.ok.injEq, exists_eq', true_and, iff_true]
        at served told_iff
      exact ⟨.admitted, live, ⟨out.2, served⟩, List.count_eq_one_of_mem once told_iff⟩

/-- A scanner that has stopped has no request in flight, so that nobody waits for an end. -/
private theorem waiting_eq_nil {who : Nat → Handler} {ds : List (Delivery σ)}
    {ts : List (Turn σ)} {outcomes : List Outcome} {ledger : List (List Block)}
    {pending : PerClass (Option Nat)}
    (a : Accounts who ts
      ((Engine.initial config driver).run (Delivery.turns true (ds ++ [lastShutdown]))).1 outcomes
      ledger pending) : waiting pending = [] := by
  have settled : ((Scanner.initial config driver).receiveAll (ds ++ [lastShutdown])).1.Settled :=
    Scanner.receiveAll_settled _ (fun running => by cases running) _
  have stopped : ((Scanner.initial config driver).receiveAll (ds ++ [lastShutdown])).1.running =
      false := by
    simp [Scanner.receiveAll_running, lastShutdown, Delivery.isLive]
  have idle : ∀ c, pending.get c = none := fun c => by
    have flight : ((Engine.initial config driver).run
        (Delivery.turns true (ds ++ [lastShutdown]))).1.inFlight? c = none := by
      have none := (settled stopped).2 c
      rw [Scanner.receiveAll_engine] at none
      exact none
    have agree := a.inFlight c
    rw [flight] at agree
    exact Option.map_eq_none_iff.1 agree.symm
  simp only [waiting, show pending.single = none from idle .single,
    show pending.background = none from idle .background, Option.toList_none, List.append_nil]

/-- The ledger of the operations is a ledger of the life. -/
private theorem endings_of_accounts {who : Nat → Handler} {ds : List (Delivery σ)}
    {ledger : List (List Block)} {pending : PerClass (Option Nat)}
    (a : Accounts who (Delivery.turns true (ds ++ [lastShutdown]))
      ((Engine.initial config driver).run (Delivery.turns true (ds ++ [lastShutdown]))).1
      ((Engine.initial config driver).run (Delivery.turns true (ds ++ [lastShutdown]))).2 ledger
      pending) :
    Endings who ds ((Scanner.initial config driver).life ds) ledger := by
  have nobody := waiting_eq_nil config driver a
  have once := a.once
  have told_iff := a.admitted_iff
  simp only [nobody, List.append_nil] at once told_iff
  have length : ledger.length = ds.length + 1 := by
    rw [a.length_ledger, Engine.length_run, Delivery.length_turns, List.length_append]
    rfl
  -- The calls of an entry are those of the operation at its position.
  have entry {k : Nat} {blocks : List Block} (at? : ledger[k]? = some blocks) :
      (((ds ++ [lastShutdown])[k]?).map fun d =>
        ((before config driver (ds ++ [lastShutdown]) k).engine.perform
          (d.turn (Delivery.liveAt ds k))).2.told) = some (blocks.flatMap (Block.told who)) := by
    have lt := (List.getElem?_eq_some_iff.1 at?).1
    have calls := congrArg (·[k]?) a.told
    simp only [List.getElem?_map, outcome_at, at?, Option.map_some, Option.map_map,
      liveAt_lastShutdown ds k (by omega)] at calls
    exact calls
  constructor
  case told =>
    have effects := Scanner.receiveAll_effects (Scanner.initial config driver)
      (ds ++ [lastShutdown])
    rw [life_receiveAll] at effects
    have calls := congrArg (List.map (List.filterMap Effect.told?)) effects
    simp only [List.map_append, List.map_map, List.map_singleton] at calls
    exact calls.trans a.told
  case fate => exact fun i start => exists_fate config driver once (told_iff i) start
  case owned =>
    intro b member
    have admitted := (told_iff b.owner).1 (List.mem_map_of_mem member)
    obtain ⟨time, now, c, settings, handler, at?⟩ := startAt_of_admittedAt admitted
    rcases getElem?_concat_cases at? with at? | ⟨-, last⟩
    · exact ⟨time, now, c, settings, handler, at?⟩
    · cases last
  case timely => exact a.timely
  case failed =>
    rintro k blocks ⟨live, stop⟩ at?
    have shutdown : ∃ time now,
        (ds ++ [lastShutdown])[k]? = some (.command time now .shutdown) := by
      rcases stop with rfl | ⟨time, now, stop⟩
      · exact ⟨0, 0, List.getElem?_concat_length⟩
      · have lt := (List.getElem?_eq_some_iff.1 stop).1
        exact ⟨time, now, by rw [List.getElem?_append_left lt, stop]⟩
    obtain ⟨time, now, shutdown⟩ := shutdown
    have calls := entry at?
    rw [shutdown, live] at calls
    have told : ∀ call ∈ blocks.flatMap (Block.told who), call.2 = .status .failed := by
      rw [← Option.some.inj calls]
      exact fun call h => Engine.status_of_mem_failAll _ _ h
    exact failed_of_told told
  case silent =>
    intro k blocks stopped at?
    have calls := entry at?
    rw [stopped] at calls
    obtain ⟨d, -, calls⟩ := Option.map_eq_some_iff.1 calls
    have untold : [] = blocks.flatMap (Block.told who) := by
      rw [← calls]
      cases d <;> rfl
    exact Block.eq_nil_of_told untold

/-- Every start has one of three fates. It is admitted, and then its handler is told one status
until the scanner has stopped, a failure if the request was in flight to the last. Or it is answered
with an error and its handler is told nothing. Or it waits behind a shutdown: it is answered that
the scanner is gone, the driver is not commanded, and its handler is told nothing. Handlers are told
nothing more after the scanner has stopped, whatever it had armed and whatever reaches it. All this
holds with the handlers of the starts and, for the same ledger, with any in their place. -/
theorem starts_end_once (ds : List (Delivery σ)) :
    let life := (Scanner.initial config driver).life ds
    (∃ ledger,
      Endings (Delivery.handlerAt ds) ds life ledger ∧
      ∀ who : Nat → Handler,
        Endings who (Delivery.attend who ds)
          ((Scanner.initial config driver).life (Delivery.attend who ds)) ledger) ∧
    life.ended.timers = .idle ∧
    (∀ more, ∀ v ∈ (life.ended.receiveAll more).2, v.effects = []) ∧
    ∀ time now cs,
      life.ended.call time now cs = (life.ended, [], cs.map fun _ => .error .unavailable) := by
  -- The scanner after the last delivery may still run; its stop settles it then.
  have settled : ((Scanner.initial config driver).receiveAll ds).1.Settled :=
    Scanner.receiveAll_settled _ (fun running => by cases running) _
  have stopped := ((Scanner.initial config driver).receiveAll ds).1.stop_running
  refine ⟨?_, (Scanner.stop_settled _ settled stopped).1,
    Scanner.receiveAll_stopped _ stopped, ?_⟩
  · obtain ⟨ledger, pending, a⟩ :=
      exists_accounts config driver (Delivery.turns true (ds ++ [lastShutdown]))
    have endings (who : Nat → Handler) :
        Endings who (Delivery.attend who ds)
          ((Scanner.initial config driver).life (Delivery.attend who ds)) ledger := by
      have own := a who
      rw [← Delivery.turns_attend, attend_lastShutdown] at own
      exact endings_of_accounts config driver own
    have own := endings (Delivery.handlerAt ds)
    rw [Delivery.attend_handlerAt] at own
    exact ⟨ledger, own, endings⟩
  · intro time now cs
    simp only [Scanner.call, Scanner.life, stopped, Bool.false_eq_true, if_false]

end Life

end WifiScan

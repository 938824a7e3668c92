import Mathlib.Data.List.Induction
import WifiScan.Proofs.Engine.Handlers

/-!
# Calls on handlers come in blocks

All that the engine tells about one request it tells at once: any number of single results, then one
status. This block belongs to the start that admitted the request, and no start has two. To say
which start a call belongs to, the starts of a run are given handlers by their positions (`attend`);
the blocks are then the same whatever the handlers are.

## Main result

`callbacks_in_blocks`: the calls on handlers in a run are the blocks of its admitted starts, one
after another; the starts without a block are those in flight.
-/
namespace WifiScan

variable {σ : Type}

/-! ### Who is told -/

/-- The run in which the start at each position has the handler `who` gives to the position. -/
def attend (who : Nat → Handler) (ts : List (Turn σ)) : List (Turn σ) :=
  ts.mapIdx fun i t => t.rename fun _ => who i

/-- The handler of the start at a position. -/
def handlerAt (ts : List (Turn σ)) (i : Nat) : Handler :=
  match (ts[i]?).map Turn.operation with
  | some (.start _ _ (some h)) => h
  | _ => ""

/-- Everything that is told about one request. -/
structure Block where
  /-- The position of the start that admitted the request. -/
  owner : Nat
  /-- Single results, each with its bucket. -/
  reports : List (ScanResult × Nat)
  status : ScanStatus
  deriving DecidableEq

namespace Block

/-- The calls of a block on the handler of its owner. -/
def told (who : Nat → Handler) (b : Block) : List (Handler × ScanEvent) :=
  (b.reports.map fun (result, bucket) => (who b.owner, .fullResult result bucket)) ++
    [(who b.owner, .status b.status)]

/-- Every block tells something. -/
theorem eq_nil_of_told {who : Nat → Handler} {bs : List Block}
    (untold : [] = bs.flatMap (Block.told who)) : bs = [] := by
  cases bs with
  | nil => rfl
  | cons b bs => simp [told] at untold

end Block

/-- The owners of all blocks, where a ledger lists the blocks of each turn. -/
def owners (ledger : List (List Block)) : List Nat := ledger.flatten.map Block.owner

/-- Whether the turn at a position is a start that was answered without an error. -/
def AdmittedAt (ts : List (Turn σ)) (outcomes : List Outcome) (i : Nat) : Prop :=
  ∃ t o c s h, ts[i]? = some t ∧ t.operation = .start c s h ∧ outcomes[i]? = some o ∧
    o.answer = .ok ()

/-- The starts whose requests are in flight. -/
def waiting (pending : PerClass (Option Nat)) : List Nat :=
  pending.single.toList ++ pending.background.toList

/-- A ledger of a run, with the starts whose requests are in flight at its end. -/
structure Accounts (who : Nat → Handler) (ts : List (Turn σ)) (e : Engine σ)
    (outcomes : List Outcome) (ledger : List (List Block)) (pending : PerClass (Option Nat)) :
    Prop where
  /-- Each turn makes the calls of its blocks, one block after another. -/
  told : outcomes.map Outcome.told = ledger.map (List.flatMap (Block.told who))
  /-- The request in flight of a class is that of the pending start. -/
  inFlight : ∀ c, (e.inFlight? c).map Request.handler = (pending.get c).map who
  /-- A pending start is one of its class. -/
  pending_start : ∀ c i, pending.get c = some i →
    ∃ t s h, ts[i]? = some t ∧ t.operation = .start c s h
  /-- No start has two blocks, and none that is pending has one. -/
  once : (owners ledger ++ waiting pending).Nodup
  /-- The starts with a block and the pending ones are those that were admitted. -/
  admitted_iff : ∀ i, i ∈ owners ledger ++ waiting pending ↔ AdmittedAt ts outcomes i
  /-- No block is told before its start. -/
  timely : ∀ (k : Nat) blocks, ledger[k]? = some blocks → ∀ b ∈ blocks, b.owner ≤ k
  /-- Single results are told only of requests that complete. -/
  reports_completed : ∀ b ∈ ledger.flatten, b.reports ≠ [] → b.status = .resultsAvailable
  /-- A start whose command is refused has a block that is told at once and says only that. -/
  refused : ∀ (i : Nat) (o : Outcome) c fs hidden, outcomes[i]? = some o →
    Effect.command c fs hidden false ∈ o.effects → ledger[i]? = some [⟨i, [], .failed⟩]

/-! ### The blocks of one turn -/

/-- What a turn at position `n` enters for one class: whether it admits a start of the class, the
pending start before it, the blocks that it tells, and the pending start after it. -/
inductive Entry (n : Nat) : Bool → Option Nat → List Block → Option Nat → Prop where
  | rest (p : Option Nat) : Entry n false p [] p
  | accepted : Entry n true none [] (some n)
  | refused : Entry n true none [⟨n, [], .failed⟩] none
  | ended (b : Block) (completed : b.reports ≠ [] → b.status = .resultsAvailable) :
      Entry n false (some b.owner) [b] none

private theorem Entry.pending {n i : Nat} {admits : Bool} {p p' : Option Nat} {bs : List Block}
    (entry : Entry n admits p bs p') (after : p' = some i) :
    p = some i ∨ (i = n ∧ admits = true) := by
  cases entry with
  | rest p => exact Or.inl after
  | accepted => exact Or.inr ⟨(Option.some.inj after).symm, rfl⟩
  | refused => cases after
  | ended b completed => cases after

private theorem Entry.completed {n : Nat} {admits : Bool} {p p' : Option Nat} {bs : List Block}
    (entry : Entry n admits p bs p') :
    ∀ b ∈ bs, b.reports ≠ [] → b.status = .resultsAvailable := by
  cases entry with
  | ended b completed => simpa using completed
  | _ => simp

/-- Entries keep the balance: who is told or pending was pending before or is admitted now. -/
private theorem Entry.balance {n : Nat} {admits : Bool} {p p' : Option Nat} {bs : List Block}
    (entry : Entry n admits p bs p') :
    (bs.map Block.owner ++ p'.toList).Perm (p.toList ++ if admits then [n] else []) := by
  cases entry <;> simp

/-- A step of a class makes an entry. -/
private theorem Engine.LaneStep.entry {e : Engine σ} {now : UInt64} {c : ScanClass}
    {admitted : Option Handler} {fx : List Effect} {lane : Lane}
    (step : e.LaneStep now c admitted fx lane) (who : Nat → Handler) (n : Nat) (p : Option Nat)
    (flight : (e.inFlight? c).map Request.handler = p.map who)
    (named : ∀ h, admitted = some h → h = who n) :
    ∃ bs p', Entry n admitted.isSome p bs p' ∧
      fx.filterMap Effect.told? = bs.flatMap (Block.told who) ∧
      lane.inFlight.map Request.handler = p'.map who ∧
      (∀ d fs hidden, Effect.command d fs hidden false ∈ fx →
        admitted.isSome ∧ bs = [⟨n, [], .failed⟩]) := by
  cases step with
  | rest => exact ⟨[], p, .rest p, rfl, flight, by simp⟩
  | @accepted s h r idle sound made =>
    -- The start becomes the pending one; before it, none was.
    have free : p = none := by simpa [idle] using flight.symm
    have own : r.handler = who n := by rw [← named h rfl, ← made]; rfl
    subst free
    exact ⟨[], some n, .accepted, rfl, congrArg some own, by simp⟩
  | @refused s h r idle sound made =>
    have free : p = none := by simpa [idle] using flight.symm
    have own : h = who n := named h rfl
    have empty : (e.lanes.get c).inFlight = none := idle
    subst free own
    exact ⟨[⟨n, [], .failed⟩], none, .refused, rfl, by simp [empty], by simp⟩
  | @failed r reason running =>
    -- Whoever is in flight is pending, and its block is told.
    rw [running] at flight
    obtain ⟨i, rfl, owner⟩ := Option.map_eq_some_iff.1 flight.symm
    refine ⟨[⟨i, [], .failed⟩], none, .ended ⟨i, [], .failed⟩ (by simp), ?_, rfl, by simp⟩
    simp [List.filterMap_cons, Effect.told?, Block.told, owner, Ending.status]
  | @completed r raw discovered data running retained ranked =>
    rw [running] at flight
    obtain ⟨i, rfl, owner⟩ := Option.map_eq_some_iff.1 flight.symm
    let block : Block := ⟨i, Engine.fullResults r discovered, .resultsAvailable⟩
    refine ⟨[block], none, .ended block (fun _ => rfl), ?_, rfl, ?_⟩
    · simp [block, List.filterMap_cons, Engine.told_fullReports, Effect.told?, Block.told, owner,
        Ending.status]
    · -- No command is among the effects of a completion.
      intro d fs hidden command
      simp only [List.mem_append, List.mem_cons, reduceCtorEq, List.not_mem_nil, or_false,
        false_or] at command
      obtain ⟨_, _, report⟩ := Engine.eq_report_of_mem_fullReports command
      cases report

/-! ### The blocks of a run -/

theorem AdmittedAt.lt {ts : List (Turn σ)} {outcomes : List Outcome} {i : Nat}
    (h : AdmittedAt ts outcomes i) : i < ts.length := by
  obtain ⟨t, _, _, _, _, at?, _⟩ := h
  exact (List.getElem?_eq_some_iff.1 at?).1

private theorem admittedAt_concat {ts : List (Turn σ)} {outcomes : List Outcome}
    (length : outcomes.length = ts.length) (t : Turn σ) (o : Outcome) (i : Nat) :
    AdmittedAt (ts ++ [t]) (outcomes ++ [o]) i ↔
      AdmittedAt ts outcomes i ∨
        (i = ts.length ∧ ∃ c s h, t.operation = .start c s h ∧ o.answer = .ok ()) := by
  constructor
  · rintro ⟨t', o', c, s, h, turn, op, out, answer⟩
    -- Turns and outcomes are as many, so the last turn has the last outcome.
    rcases getElem?_concat_cases turn with turn | ⟨rfl, rfl⟩
    · rcases getElem?_concat_cases out with out | ⟨rfl, -⟩
      · exact Or.inl ⟨t', o', c, s, h, turn, op, out, answer⟩
      · have := (List.getElem?_eq_some_iff.1 turn).1
        omega
    · rw [← length, List.getElem?_concat_length] at out
      cases out
      exact Or.inr ⟨rfl, c, s, h, op, answer⟩
  · rintro (⟨t', o', c, s, h, turn, op, out, answer⟩ | ⟨rfl, c, s, h, op, answer⟩)
    · have lt := (List.getElem?_eq_some_iff.1 turn).1
      exact ⟨t', o', c, s, h, by rw [List.getElem?_append_left lt, turn], op,
        by rw [List.getElem?_append_left (length ▸ lt), out], answer⟩
    · exact ⟨t, o, c, s, h, List.getElem?_concat_length, op,
        by rw [← length, List.getElem?_concat_length], answer⟩

private theorem admitted?_rename (w : Handler) (t : Turn σ) (o : Outcome) (c : ScanClass)
    {h : Handler} (admitted : (t.rename fun _ => w).admitted? o c = some h) : h = w := by
  obtain ⟨now, operation⟩ := t
  cases operation with
  | start d s handler =>
    cases answer : o.answer with
    | error error => simp [Turn.admitted?, Turn.rename, Operation.rename, answer] at admitted
    | ok _ =>
      simp only [Turn.admitted?, Turn.rename, Operation.rename, answer] at admitted
      split at admitted
      · obtain ⟨_, -, rfl⟩ := Option.map_eq_some_iff.1 admitted
        rfl
      · cases admitted
  | driverEvent event => simp [Turn.admitted?, Turn.rename, Operation.rename] at admitted
  | timeout tag => simp [Turn.admitted?, Turn.rename, Operation.rename] at admitted
  | failAll reason => simp [Turn.admitted?, Turn.rename, Operation.rename] at admitted
  | script change => simp [Turn.admitted?, Turn.rename, Operation.rename] at admitted

/-- The starts that a turn at position `n` admits: one or none. -/
private def news [ScanDriver σ] (e : Engine σ) (t : Turn σ) (n : Nat) : List Nat :=
  ScanClass.all.flatMap fun c => if (t.admitted? (e.perform t).2 c).isSome then [n] else []

private theorem mem_news [ScanDriver σ] (e : Engine σ) (t : Turn σ) (n i : Nat) :
    i ∈ news e t n ↔
      i = n ∧ ∃ c s h, t.operation = .start c s h ∧ (e.perform t).2.answer = .ok () := by
  simp only [news, List.mem_flatMap, ScanClass.all]
  constructor
  · rintro ⟨c, -, member⟩
    split at member
    next admitted =>
      obtain ⟨s, h, op, answer⟩ := (e.admitted?_isSome_iff t c).1 admitted
      exact ⟨List.mem_singleton.1 member, c, s, h, op, answer⟩
    next => cases member
  · rintro ⟨rfl, c, s, h, op, answer⟩
    refine ⟨c, by cases c <;> simp, ?_⟩
    rw [if_pos ((e.admitted?_isSome_iff t c).2 ⟨s, h, op, answer⟩)]
    exact List.mem_singleton_self _

private theorem nodup_news [ScanDriver σ] (e : Engine σ) (t : Turn σ) (n : Nat) :
    (news e t n).Nodup := by
  have one : ¬((t.admitted? (e.perform t).2 .single).isSome ∧
      (t.admitted? (e.perform t).2 .background).isSome) := by
    rintro ⟨single, background⟩
    obtain ⟨_, _, op, -⟩ := (e.admitted?_isSome_iff t _).1 single
    obtain ⟨_, _, op', -⟩ := (e.admitted?_isSome_iff t _).1 background
    cases op.symm.trans op'
  simp only [news, ScanClass.all, List.flatMap_cons, List.flatMap_nil]
  split <;> split <;> simp_all

/-- What a turn at position `n` enters for both classes. -/
private structure TurnEntry [ScanDriver σ] (who : Nat → Handler) (e : Engine σ) (t : Turn σ)
    (n : Nat) (pending : PerClass (Option Nat)) (blocks : List Block)
    (pending' : PerClass (Option Nat)) : Prop where
  told : (e.perform t).2.told = blocks.flatMap (Block.told who)
  inFlight : ∀ c, ((e.perform t).1.inFlight? c).map Request.handler = (pending'.get c).map who
  /-- The turn only adds the starts that it admits to those that are told or pending. -/
  balance : (blocks.map Block.owner ++ waiting pending').Perm (waiting pending ++ news e t n)
  pending_start : ∀ c i, pending'.get c = some i →
    pending.get c = some i ∨ i = n ∧ (t.admitted? (e.perform t).2 c).isSome = true
  completed : ∀ b ∈ blocks, b.reports ≠ [] → b.status = .resultsAvailable
  refused : ∀ c fs hidden, Effect.command c fs hidden false ∈ (e.perform t).2.effects →
    blocks = [⟨n, [], .failed⟩]

/-- A turn is a step of each class, and its entry is put together from theirs. -/
private theorem exists_turnEntry [ScanDriver σ] {who : Nat → Handler} {e : Engine σ} {t : Turn σ}
    {n : Nat} {pending : PerClass (Option Nat)}
    (flight : ∀ c, (e.inFlight? c).map Request.handler = (pending.get c).map who)
    (named : ∀ c h, t.admitted? (e.perform t).2 c = some h → h = who n) :
    ∃ blocks pending', TurnEntry who e t n pending blocks pending' := by
  obtain ⟨fx, effects, steps, alone⟩ := e.perform_lanes t
  obtain ⟨single, p₁, entry₁, told₁, flight₁, refused₁⟩ :=
    (steps .single).entry who n _ (flight _) (named _)
  obtain ⟨background, p₂, entry₂, told₂, flight₂, refused₂⟩ :=
    (steps .background).entry who n _ (flight _) (named _)
  refine ⟨single ++ background, ⟨p₁, p₂⟩, ?_⟩
  constructor
  case told =>
    rw [Outcome.told, effects, List.filterMap_append, List.flatMap_append]
    exact congrArg₂ (· ++ ·) told₁ told₂
  case inFlight =>
    intro c
    cases c with
    | single => exact flight₁
    | background => exact flight₂
  case balance =>
    rw [List.perm_iff_count]
    intro i
    have first := List.perm_iff_count.1 entry₁.balance i
    have second := List.perm_iff_count.1 entry₂.balance i
    simp only [waiting, news, ScanClass.all, PerClass.get, List.map_append, List.count_append,
      List.flatMap_cons, List.flatMap_nil, List.append_nil] at first second ⊢
    omega
  case pending_start =>
    intro c i after
    cases c with
    | single => exact entry₁.pending after
    | background => exact entry₂.pending after
  case completed =>
    intro b member
    rcases List.mem_append.1 member with first | second
    · exact entry₁.completed b first
    · exact entry₂.completed b second
  case refused =>
    intro c fs hidden command
    rw [effects, List.mem_append] at command
    -- The class of the refused command tells its block, and the other tells nothing.
    rcases command with command | command
    · obtain ⟨admits, rfl⟩ := refused₁ c fs hidden command
      rw [alone .single admits .background (by decide)] at told₂
      rw [Block.eq_nil_of_told told₂, List.append_nil]
    · obtain ⟨admits, rfl⟩ := refused₂ c fs hidden command
      rw [alone .background admits .single (by decide)] at told₁
      rw [Block.eq_nil_of_told told₁, List.nil_append]

namespace Accounts

variable {who : Nat → Handler} {ts : List (Turn σ)} {e : Engine σ} {outcomes : List Outcome}
  {ledger : List (List Block)} {pending : PerClass (Option Nat)}

theorem length_ledger (a : Accounts who ts e outcomes ledger pending) :
    ledger.length = outcomes.length := by
  simpa using (congrArg List.length a.told).symm

/-- One more turn, whose start has the handler of its position, adds its blocks to the ledger. -/
theorem concat [ScanDriver σ] (a : Accounts who ts e outcomes ledger pending)
    (length : outcomes.length = ts.length) (t : Turn σ) :
    ∃ blocks pending',
      Accounts who (ts ++ [t.rename fun _ => who ts.length])
        (e.perform (t.rename fun _ => who ts.length)).1
        (outcomes ++ [(e.perform (t.rename fun _ => who ts.length)).2]) (ledger ++ [blocks])
        pending' := by
  -- Only the turn with the handler of its position matters from here on.
  have named c h := admitted?_rename (who ts.length) t
    (e.perform (t.rename fun _ => who ts.length)).2 c (h := h)
  generalize t.rename (fun _ => who ts.length) = t at named
  obtain ⟨blocks, pending', entry⟩ := exists_turnEntry a.inFlight named
  -- The balance over a run: no start is told twice.
  have balance : (owners (ledger ++ [blocks]) ++ waiting pending').Perm
      ((owners ledger ++ waiting pending) ++ news e t ts.length) := by
    have turn := entry.balance.append_left (owners ledger)
    simpa only [owners, List.flatten_append, List.flatten_singleton, List.map_append,
      List.append_assoc] using turn
  have here {i : Nat} (member : i ∈ owners ledger ++ waiting pending) : i < ts.length :=
    ((a.admitted_iff i).1 member).lt
  refine ⟨blocks, pending', ?_⟩
  constructor
  case told =>
    rw [List.map_append, List.map_append, a.told, List.map_singleton, List.map_singleton,
      entry.told]
  case inFlight => exact entry.inFlight
  case pending_start =>
    intro c i after
    rcases entry.pending_start c i after with before | ⟨rfl, admits⟩
    · -- It was pending before this turn.
      obtain ⟨u, s, h, at?, op⟩ := a.pending_start c i before
      have lt := (List.getElem?_eq_some_iff.1 at?).1
      exact ⟨u, s, h, by rw [List.getElem?_append_left lt, at?], op⟩
    · -- This turn admits it.
      obtain ⟨s, h, op, -⟩ := (e.admitted?_isSome_iff t c).1 admits
      exact ⟨t, s, h, List.getElem?_concat_length, op⟩
  case once =>
    refine balance.nodup_iff.2 (List.nodup_append.2 ⟨a.once, nodup_news e t _, ?_⟩)
    rintro i old j new rfl
    exact absurd (here old) (by rw [((mem_news ..).1 new).1]; exact Nat.lt_irrefl _)
  case admitted_iff =>
    intro i
    rw [balance.mem_iff, List.mem_append, a.admitted_iff, mem_news, admittedAt_concat length]
  case timely =>
    intro k own at? b member
    rcases getElem?_concat_cases at? with at? | ⟨rfl, rfl⟩
    · exact a.timely k own at? b member
    · have owner : b.owner ∈ owners (ledger ++ [own]) ++ waiting pending' :=
        List.mem_append_left _ (List.mem_map_of_mem
          (List.mem_flatten.2 ⟨_, List.mem_concat_self, member⟩))
      have before := a.length_ledger
      rcases List.mem_append.1 (balance.mem_iff.1 owner) with old | new
      · have := here old
        omega
      · have := ((mem_news ..).1 new).1
        omega
  case reports_completed =>
    intro b member
    simp only [List.flatten_append, List.flatten_singleton, List.mem_append] at member
    rcases member with old | new
    · exact a.reports_completed b old
    · exact entry.completed b new
  case refused =>
    intro i o c fs hidden at? command
    rcases getElem?_concat_cases at? with at? | ⟨rfl, rfl⟩
    · have lt := (List.getElem?_eq_some_iff.1 at?).1
      rw [List.getElem?_append_left (a.length_ledger ▸ lt)]
      exact a.refused i o c fs hidden at? command
    · rw [← a.length_ledger, List.getElem?_concat_length, a.length_ledger, length]
      exact congrArg some (entry.refused c fs hidden command)

end Accounts

/-! ### The same blocks for all handlers -/

theorem attend_attend (f label : Nat → Handler) (who : Handler → Handler)
    (named : ∀ i, who (label i) = f i) (ts : List (Turn σ)) :
    (attend label ts).map (Turn.rename who) = attend f ts := by
  apply List.ext_getElem?
  intro i
  rw [List.getElem?_map, attend, attend, List.getElem?_mapIdx, List.getElem?_mapIdx]
  cases ts[i]? with
  | none => rfl
  | some t =>
    obtain ⟨now, operation⟩ := t
    cases operation with
    | start c s h => cases h <;> simp [Turn.rename, Operation.rename, named]
    | _ => rfl

/-- A run in which every start has its own handler again is the run itself. -/
theorem attend_handlerAt (ts : List (Turn σ)) : attend (handlerAt ts) ts = ts := by
  apply List.ext_getElem?
  intro i
  rw [attend, List.getElem?_mapIdx]
  cases at? : ts[i]? with
  | none => rfl
  | some t =>
    obtain ⟨now, operation⟩ := t
    cases operation with
    | start c s h => cases h <;> simp [Turn.rename, Operation.rename, handlerAt, at?]
    | _ => rfl

private theorem admittedAt_rename (f : Handler → Handler) (ts : List (Turn σ))
    (outcomes : List Outcome) (i : Nat) :
    AdmittedAt (ts.map (Turn.rename f)) (outcomes.map (Outcome.rename f)) i ↔
      AdmittedAt ts outcomes i := by
  simp only [AdmittedAt, List.getElem?_map, Option.map_eq_some_iff]
  constructor
  · rintro ⟨_, _, c, s, h, ⟨⟨now, operation⟩, at?, rfl⟩, op, ⟨o, out, rfl⟩, answer⟩
    cases operation with
    | start d s' h' =>
      cases op
      exact ⟨_, o, c, s, h', at?, rfl, out, answer⟩
    | _ => cases op
  · rintro ⟨⟨now, _⟩, o, c, s, h, at?, rfl, out, answer⟩
    exact ⟨_, _, c, s, h.map f, ⟨_, at?, rfl⟩, rfl, ⟨o, out, rfl⟩, answer⟩

/-- Renaming the handlers of a run changes nothing in its accounts. -/
theorem Accounts.rename {who : Nat → Handler} {ts : List (Turn σ)} {e : Engine σ}
    {outcomes : List Outcome} {ledger : List (List Block)} {pending : PerClass (Option Nat)}
    (a : Accounts who ts e outcomes ledger pending) (f : Handler → Handler) :
    Accounts (f ∘ who) (ts.map (Turn.rename f)) (e.rename f) (outcomes.map (Outcome.rename f))
      ledger pending where
  told := by
    -- A block names its handler through `who`, so it is renamed with it.
    have tells (b : Block) :
        (b.told who).map (fun call => (f call.1, call.2)) = b.told (f ∘ who) := by
      simp [Block.told]
    have all := congrArg (List.map (List.map fun call => (f call.1, call.2))) a.told
    simpa [List.map_map, Function.comp_def, Outcome.told_rename, List.map_flatMap, tells] using all
  inFlight c := by
    have flight := congrArg (Option.map f) (a.inFlight c)
    simpa [Engine.inFlight?_rename, Option.map_map, Function.comp_def, Request.rename] using flight
  pending_start c i after := by
    obtain ⟨⟨now, _⟩, s, h, at?, rfl⟩ := a.pending_start c i after
    exact ⟨_, s, h.map f, by rw [List.getElem?_map, at?]; rfl, rfl⟩
  once := a.once
  admitted_iff i := by rw [admittedAt_rename, a.admitted_iff]
  timely := a.timely
  reports_completed := a.reports_completed
  refused i o c fs hidden out command := by
    rw [List.getElem?_map] at out
    obtain ⟨o, at?, rfl⟩ := Option.map_eq_some_iff.1 out
    obtain ⟨effect, member, same⟩ := List.mem_map.1 command
    cases effect <;> cases same
    exact a.refused i o c fs hidden at? member

/-- A handler for each position. -/
private def label (i : Nat) : Handler := String.ofList (List.replicate i 'h')

private theorem label_injective : Function.Injective label := by
  intro i j same
  have lengths := congrArg (fun h => h.toList.length) same
  simpa [label] using lengths

/-! ### Accounts of a run -/

section Runs

variable (config : EngineConfig) (driver : σ)

private theorem accounts_initial (who : Nat → Handler) :
    Accounts who [] (Engine.initial config driver) [] [] (.both none) where
  told := rfl
  inFlight c := by simp [Engine.initial, Engine.inFlight?, Lane.initial]
  pending_start c i := by simp
  once := by simp [owners, waiting, PerClass.both]
  admitted_iff i := by simp [owners, waiting, PerClass.both, AdmittedAt]
  timely := by simp
  reports_completed := by simp
  refused := by simp

variable [ScanDriver σ]

private theorem exists_accounts_attend (who : Nat → Handler) (ts : List (Turn σ)) :
    ∃ ledger pending,
      Accounts who (attend who ts) ((Engine.initial config driver).run (attend who ts)).1
        ((Engine.initial config driver).run (attend who ts)).2 ledger pending := by
  induction ts using List.reverseRecOn with
  | nil => exact ⟨[], .both none, accounts_initial config driver who⟩
  | append_singleton ts t ih =>
    obtain ⟨ledger, pending, a⟩ := ih
    have length : (attend who ts).length = ts.length := List.length_mapIdx
    obtain ⟨blocks, pending', a'⟩ := a.concat (Engine.length_run ..) t
    refine ⟨ledger ++ [blocks], pending', ?_⟩
    rw [length] at a'
    rw [attend, List.mapIdx_concat, ← attend, Engine.run_concat]
    exact a'

/-- Every run has accounts, and they do not depend on the handlers. -/
theorem exists_accounts (ts : List (Turn σ)) :
    ∃ ledger pending, ∀ who : Nat → Handler,
      Accounts who (attend who ts) ((Engine.initial config driver).run (attend who ts)).1
        ((Engine.initial config driver).run (attend who ts)).2 ledger pending := by
  -- With a handler of its own for each position, any other handlers are these renamed.
  obtain ⟨ledger, pending, a⟩ := exists_accounts_attend config driver label ts
  refine ⟨ledger, pending, ?_⟩
  intro who
  have named i : who (Function.invFun label (label i)) = who i :=
    congrArg who (Function.leftInverse_invFun label_injective i)
  have renamed := a.rename (who ∘ Function.invFun label)
  have start : (Engine.initial config driver).rename (who ∘ Function.invFun label) =
      Engine.initial config driver := rfl
  have same := Engine.run_rename (who ∘ Function.invFun label) (Engine.initial config driver)
    (attend label ts)
  rw [attend_attend who label (who ∘ Function.invFun label) named ts] at renamed same
  rw [start] at same
  rw [same]
  convert renamed using 1
  funext i
  exact (named i).symm

/-- The calls on handlers in a run are the blocks of its admitted starts, one after another: each is
told in one turn, and consists of single results, if the request completed, and one status. An
admitted start has one block, or else its request is in flight; no other start has any. This is so
for the handlers of the run, and the blocks stay the same with any handlers in their place, so they
belong to the starts that they are ascribed to also where starts share a handler. -/
theorem callbacks_in_blocks (ts : List (Turn σ)) :
    ∃ ledger pending,
      Accounts (handlerAt ts) ts ((Engine.initial config driver).run ts).1
        ((Engine.initial config driver).run ts).2 ledger pending ∧
      ∀ who : Nat → Handler,
        Accounts who (attend who ts) ((Engine.initial config driver).run (attend who ts)).1
          ((Engine.initial config driver).run (attend who ts)).2 ledger pending := by
  obtain ⟨ledger, pending, a⟩ := exists_accounts config driver ts
  have own := a (handlerAt ts)
  rw [attend_handlerAt] at own
  exact ⟨ledger, pending, own, a⟩

end Runs

end WifiScan

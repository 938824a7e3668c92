import Mathlib.Data.List.Nodup
import WifiScan.Proofs.Engine.ClassLog
import WifiScan.Proofs.Scanner.Timers

/-!
# Timer discipline

The engine arms the timer of a class when the driver takes a request of the class, and disarms it
when that request ends. Requests are numbered as they are admitted, also those that the driver
refuses, so that a tag is never used for two of them.

## Main result

`timer_discipline`: the engine's calls on its timers, carried out one by one on a table of tags, are
all in order and leave the tags of the requests in flight. Armed tags have ascending numbers, and
the tag of a request that has ended is never that of a request in flight.

## Proof strategy

A step of a class makes at most one call (`LaneStep.replay?_eq`), which gives the table by induction
on the run. For the numbers, the invariant `Numbered` relates the tags in the log of a class to how
many requests of the class were admitted; words are compared only at the end, where the bound on
admissions says that they do not wrap around.
-/
namespace WifiScan

variable {σ : Type}

/-! ### Calls on timers -/

/-- A call of the engine on its timers. -/
inductive TimerCall where
  | arm (tag : TimerTag) (delayMs : UInt64)
  | disarm (scanClass : ScanClass)
  deriving DecidableEq

def Effect.timerCall? : Effect → Option TimerCall
  | arm tag delayMs => some (.arm tag delayMs)
  | disarm c => some (.disarm c)
  | _ => none

def timerCalls (effects : List Effect) : List TimerCall := effects.filterMap Effect.timerCall?

/-- The requests that a log tells to have ended, those that the driver refused included. -/
def endedBy (effects : List Effect) : List TimerTag :=
  effects.filterMap fun
    | .finish tag _ _ => some tag
    | _ => none

/-- For each class the tag that its timer is armed with, if it is armed. -/
abbrev TimerTable := PerClass (Option TimerTag)

/-- Carries out a call. Only a free entry can be armed, and only an armed one can be disarmed. -/
def TimerCall.apply? (table : TimerTable) : TimerCall → Option TimerTable
  | arm tag _ =>
    match table.get tag.scanClass with
    | none => some (table.set tag.scanClass (some tag))
    | some _ => none
  | disarm c =>
    match table.get c with
    | none => none
    | some _ => some (table.set c none)

/-- Carries out calls one after another, unless one of them is out of order. -/
def replay? (table : TimerTable) (calls : List TimerCall) : Option TimerTable :=
  calls.foldlM TimerCall.apply? table

theorem timerCalls_append (fx more : List Effect) :
    timerCalls (fx ++ more) = timerCalls fx ++ timerCalls more :=
  List.filterMap_append

theorem endedBy_append (fx more : List Effect) :
    endedBy (fx ++ more) = endedBy fx ++ endedBy more :=
  List.filterMap_append

theorem replay?_append (table : TimerTable) (calls more : List TimerCall) :
    replay? table (calls ++ more) = (replay? table calls).bind (replay? · more) :=
  List.foldlM_append

theorem PerClass.set_get {α : Type} (p : PerClass α) (c : ScanClass) : p.set c (p.get c) = p := by
  cases c <;> rfl

theorem armedBy_classLog (c : ScanClass) (outcomes : List Outcome) :
    armedBy (classLog c outcomes) = (armedBy (effectsOf outcomes)).filter (·.scanClass = c) := by
  simp only [armedBy, classLog, List.filter_filterMap, List.filterMap_filter]
  apply List.filterMap_congr
  intro effect _
  by_cases own : effect.scanClass = c
  · rw [if_pos (decide_eq_true own)]
    cases effect <;> simp_all [Effect.scanClass, Option.filter]
  · rw [if_neg (by simpa using own)]
    cases effect <;> simp_all [Effect.scanClass, Option.filter]

theorem mem_endedBy {tag : TimerTag} {effects : List Effect} :
    tag ∈ endedBy effects ↔ ∃ handler ending, .finish tag handler ending ∈ effects := by
  simp only [endedBy, List.mem_filterMap]
  constructor
  · rintro ⟨effect, member, same⟩
    cases effect <;> cases same
    exact ⟨_, _, member⟩
  · rintro ⟨handler, ending, member⟩
    exact ⟨_, member, rfl⟩

namespace Engine

def tagsInFlight (e : Engine σ) : TimerTable :=
  e.lanes.map fun lane => lane.inFlight.map Request.tag

theorem tagsInFlight_get (e : Engine σ) (c : ScanClass) :
    e.tagsInFlight.get c = (e.inFlight? c).map Request.tag := PerClass.get_map ..

/-! ### Calls are in order -/

/-- A step of a class calls the class's timer in order, and leaves its entry as the step leaves the
class. -/
theorem LaneStep.replay?_eq {e : Engine σ} {now : UInt64} {c : ScanClass}
    {admitted : Option Handler} {fx : List Effect} {lane : Lane}
    (step : e.LaneStep now c admitted fx lane) {table : TimerTable}
    (agrees : table.get c = (e.inFlight? c).map Request.tag) :
    replay? table (timerCalls fx) = some (table.set c (lane.inFlight.map Request.tag)) := by
  cases step with
  | rest =>
    have unchanged : table.set c (((e.lanes.get c).inFlight).map Request.tag) = table :=
      (congrArg (table.set c) agrees.symm).trans (table.set_get c)
    rw [unchanged]
    rfl
  | @accepted s h r idle sound made =>
    have own : r.tag.scanClass = c := by rw [← made]; rfl
    have free : table.get r.tag.scanClass = none := by rw [own, agrees, idle]; rfl
    have calls : timerCalls [.command c r.scanFrequencies r.settings.hiddenNetworkIds true,
        .arm r.tag e.config.scanTimeoutMs] = [.arm r.tag e.config.scanTimeoutMs] := rfl
    simp only [calls, replay?, List.foldlM_cons, List.foldlM_nil, TimerCall.apply?, free]
    rw [own]
    rfl
  | refused idle sound made =>
    -- The request is over before a timer is armed for it.
    have unchanged : table.set c (((e.lanes.get c).inFlight).map Request.tag) = table :=
      (congrArg (table.set c) agrees.symm).trans (table.set_get c)
    exact (congrArg some unchanged).symm
  | @failed r reason flight =>
    have armed : table.get c = some r.tag := by rw [agrees, flight]; rfl
    have calls : timerCalls [.disarm c, .finish r.tag r.handler (.failed reason)] = [.disarm c] :=
      rfl
    simp only [calls, replay?, List.foldlM_cons, List.foldlM_nil, TimerCall.apply?, armed]
    rfl
  | @completed r raw discovered data flight retained ranked =>
    have armed : table.get c = some r.tag := by rw [agrees, flight]; rfl
    have reports : timerCalls (fullReports r discovered) = [] :=
      filterMap_fullReports _ (fun _ _ _ _ => rfl) r discovered
    have calls : timerCalls ([.disarm c, .fetch c raw] ++ fullReports r discovered ++
        [.store c data, .finish r.tag r.handler .completed]) = [.disarm c] := by
      rw [timerCalls_append, timerCalls_append, reports]
      rfl
    simp only [calls, replay?, List.foldlM_cons, List.foldlM_nil, TimerCall.apply?, armed]
    rfl

section Driver

variable [ScanDriver σ]

theorem perform_replay? (e : Engine σ) (t : Turn σ) :
    replay? e.tagsInFlight (timerCalls (e.perform t).2.effects) =
      some (e.perform t).1.tagsInFlight := by
  obtain ⟨fx, effects, steps, -⟩ := e.perform_lanes t
  have single := (steps .single).replay?_eq (e.tagsInFlight_get .single)
  -- The background scan finds its entry as the single scan has left it, which is as it was.
  have untouched : (e.tagsInFlight.set .single
      (((e.perform t).1.lanes.get .single).inFlight.map Request.tag)).get .background =
        (e.inFlight? .background).map Request.tag :=
    (PerClass.get_set_of_ne _ _ (by decide)).trans (e.tagsInFlight_get .background)
  have background := (steps .background).replay?_eq untouched
  change replay? _ (timerCalls fx.single) = _ at single
  change replay? _ (timerCalls fx.background) = _ at background
  rw [effects, timerCalls_append, replay?_append, single, Option.bind_some, background]
  rfl

/-- After a run, the calls made on timers have left the tags of the requests in flight. -/
theorem replay?_run (e : Engine σ) (ts : List (Turn σ)) :
    replay? e.tagsInFlight (timerCalls (effectsOf (e.run ts).2)) =
      some (e.run ts).1.tagsInFlight := by
  induction ts using List.reverseRecOn with
  | nil => rfl
  | append_singleton ts t ih =>
    rw [run_concat, effectsOf_concat, timerCalls_append, replay?_append, ih, Option.bind_some]
    exact perform_replay? _ t

end Driver

end Engine

/-! ### Tags are numbered -/

/-- The tag of the `n`-th request admitted of a class. -/
def serialTag (c : ScanClass) (n : Nat) : TimerTag := ⟨c, .ofNat n⟩

/-- What the log of a class shows of which `n` requests were admitted: the numbers of those whose
timers were armed, in order, and the tags of those that have ended. -/
structure Numbered (c : ScanClass) (n : Nat) (lane : Lane) (armed : List Nat)
    (ended : List TimerTag) : Prop where
  epoch : lane.epoch = .ofNat n
  inFlight : ∀ r, lane.inFlight = some r → r.tag = serialTag c n
  ascending : armed.Pairwise (· < ·)
  bounded : ∀ m ∈ armed, m ≤ n
  /-- While a request is in flight, those that have ended were admitted before it. -/
  before : ∀ tag ∈ ended, ∃ m, tag = serialTag c m ∧ m ≤ n ∧ (lane.inFlight.isSome → m < n)

namespace Numbered

variable {c : ScanClass} {n : Nat} {lane : Lane} {armed : List Nat} {ended : List TimerTag}

theorem initial (c : ScanClass) : Numbered c 0 .initial [] [] where
  epoch := rfl
  inFlight _ flight := by cases flight
  ascending := .nil
  bounded := by simp
  before := by simp

/-- The request in flight ends. -/
private theorem finish (numbered : Numbered c n lane armed ended) {r : Request}
    (flight : lane.inFlight = some r) {after : Lane} (epoch : after.epoch = lane.epoch)
    (idle : after.inFlight = none) : Numbered c n after armed (ended ++ [r.tag]) := by
  have nobody : ¬after.inFlight.isSome := by rw [idle]; exact Bool.false_ne_true
  refine ⟨epoch.trans numbered.epoch, ?_, numbered.ascending, numbered.bounded, ?_⟩
  · intro _ left
    cases idle.symm.trans left
  intro tag member
  rcases List.mem_append.1 member with old | new
  · obtain ⟨m, same, le, -⟩ := numbered.before tag old
    exact ⟨m, same, le, fun some => absurd some nobody⟩
  · refine ⟨n, ?_, Nat.le_refl n, fun some => absurd some nobody⟩
    rw [List.mem_singleton.1 new]
    exact numbered.inFlight r flight

/-- A request is admitted, and its timer is armed. -/
private theorem accept (numbered : Numbered c n lane armed ended) {r : Request}
    (own : r.tag = serialTag c (n + 1)) {after : Lane} (epoch : after.epoch = .ofNat (n + 1))
    (flight : after.inFlight = some r) : Numbered c (n + 1) after (armed ++ [n + 1]) ended where
  epoch := epoch
  inFlight r' flight' := by
    cases flight.symm.trans flight'
    exact own
  ascending := by
    refine List.pairwise_append.2 ⟨numbered.ascending, List.pairwise_singleton .., ?_⟩
    intro m old m' new
    rw [List.mem_singleton.1 new]
    exact Nat.lt_succ_of_le (numbered.bounded m old)
  bounded m member := by
    rcases List.mem_append.1 member with old | new
    · exact Nat.le_succ_of_le (numbered.bounded m old)
    · exact Nat.le_of_eq (List.mem_singleton.1 new)
  before tag member := by
    -- Whatever has ended was admitted before.
    obtain ⟨m, same, le, -⟩ := numbered.before tag member
    exact ⟨m, same, Nat.le_succ_of_le le, fun _ => Nat.lt_succ_of_le le⟩

/-- A request is admitted and ends at once: the number is used up, and no timer is armed with it. -/
private theorem refuse (numbered : Numbered c n lane armed ended) {tag : TimerTag}
    (own : tag = serialTag c (n + 1)) {after : Lane} (epoch : after.epoch = .ofNat (n + 1))
    (idle : after.inFlight = none) : Numbered c (n + 1) after armed (ended ++ [tag]) := by
  have nobody : ¬after.inFlight.isSome := by rw [idle]; exact Bool.false_ne_true
  refine ⟨epoch, ?_, numbered.ascending, fun m member => ?_, ?_⟩
  · intro _ flight
    cases idle.symm.trans flight
  · exact Nat.le_succ_of_le (numbered.bounded m member)
  intro other member
  rcases List.mem_append.1 member with old | new
  · obtain ⟨m, same, le, -⟩ := numbered.before other old
    exact ⟨m, same, Nat.le_succ_of_le le, fun some => absurd some nobody⟩
  · refine ⟨n + 1, ?_, Nat.le_refl _, fun some => absurd some nobody⟩
    rw [← own]
    exact List.mem_singleton.1 new

/-- A step of the class keeps the tags numbered. -/
theorem step {e : Engine σ} {now : UInt64} {admitted : Option Handler} {fx : List Effect}
    {after : Lane} (step : e.LaneStep now c admitted fx after)
    (numbered : Numbered c n (e.lanes.get c) armed ended) :
    ∃ more, armedBy fx = more.map (serialTag c) ∧
      Numbered c (n + if admitted.isSome then 1 else 0) after (armed ++ more)
        (ended ++ endedBy fx) := by
  have next : (e.lanes.get c).epoch + 1 = .ofNat (n + 1) := by
    rw [numbered.epoch, UInt64.ofNat_add]
    rfl
  cases step with
  | rest =>
    refine ⟨[], rfl, ?_⟩
    rw [List.append_nil]
    exact (List.append_nil ended).symm ▸ numbered
  | @accepted s h r idle sound made =>
    have tag : r.tag = serialTag c (n + 1) := by rw [← made, serialTag, ← next]; rfl
    have quiet : endedBy [.command c r.scanFrequencies r.settings.hiddenNetworkIds true,
        .arm r.tag e.config.scanTimeoutMs] = [] := rfl
    rw [quiet, List.append_nil]
    refine ⟨[n + 1], congrArg (fun tag => [tag]) tag, numbered.accept tag ?_ rfl⟩
    rw [← made]
    exact next
  | @refused s h r idle sound made =>
    have tag : r.tag = serialTag c (n + 1) := by rw [← made, serialTag, ← next]; rfl
    refine ⟨[], rfl, ?_⟩
    rw [List.append_nil]
    refine numbered.refuse tag ?_ idle
    rw [← made]
    exact next
  | @failed r reason flight =>
    refine ⟨[], rfl, ?_⟩
    rw [List.append_nil]
    exact numbered.finish flight rfl rfl
  | @completed r raw discovered data flight retained ranked =>
    have armedReports : armedBy (Engine.fullReports r discovered) = [] :=
      Engine.filterMap_fullReports _ (fun _ _ _ _ => rfl) r discovered
    have endedReports : endedBy (Engine.fullReports r discovered) = [] :=
      Engine.filterMap_fullReports _ (fun _ _ _ _ => rfl) r discovered
    simp only [armedBy_append, endedBy_append, armedReports, endedReports, List.append_nil]
    refine ⟨[], rfl, ?_⟩
    rw [List.append_nil]
    exact numbered.finish flight rfl rfl

end Numbered

/-- Words tell numbers below 2^64 apart. -/
theorem serialTag_inj {c : ScanClass} {m n : Nat} (hm : m < UInt64.size) (hn : n < UInt64.size)
    (same : serialTag c m = serialTag c n) : m = n := by
  have words := congrArg (fun tag => tag.epoch.toNat) same
  simpa only [serialTag, UInt64.toNat_ofNat_of_lt' hm, UInt64.toNat_ofNat_of_lt' hn] using words

theorem serialTag_epoch_lt {c : ScanClass} {m n : Nat} (lt : m < n) (hn : n < UInt64.size) :
    (serialTag c m).epoch < (serialTag c n).epoch := by
  rw [UInt64.lt_iff_toNat_lt]
  simpa only [serialTag, UInt64.toNat_ofNat_of_lt' (Nat.lt_trans lt hn),
    UInt64.toNat_ofNat_of_lt' hn] using lt

/-! ### Runs -/

section Runs

variable [ScanDriver σ]

theorem exists_numbered (config : EngineConfig) (driver : σ) (c : ScanClass)
    (ts : List (Turn σ)) :
    let (e, outcomes) := (Engine.initial config driver).run ts
    ∃ armed, armedBy (classLog c outcomes) = armed.map (serialTag c) ∧
      Numbered c (admissions c ts outcomes) (e.lanes.get c) armed
        (endedBy (classLog c outcomes)) := by
  induction ts using List.reverseRecOn with
  | nil =>
    have lane : (Engine.initial config driver).lanes.get c = .initial := PerClass.get_both ..
    refine ⟨[], rfl, ?_⟩
    simp only [lane]
    exact Numbered.initial c
  | append_singleton ts t ih =>
    obtain ⟨armed, same, numbered⟩ := ih
    have tagged := Engine.run_tagged (Engine.tagged_initial config driver) ts
    obtain ⟨more, new, numbered'⟩ := numbered.step (Engine.perform_lane tagged t c)
    refine ⟨armed ++ more, ?_, ?_⟩
    · rw [Engine.run_concat, classLog_concat, armedBy_append, same, new, List.map_append]
    · rw [Engine.admissions_concat, Engine.run_concat, classLog_concat, endedBy_append]
      exact numbered'

/-- What it means that an engine uses its timers in an orderly way in a run. -/
structure TimerDiscipline (e : Engine σ) (ts : List (Turn σ)) : Prop where
  /-- After every operation, the calls made so far were all in order: none armed the timer of a
  class whose entry was present or disarmed one whose entry was absent. They have left the tags of
  the requests in flight. -/
  replayed : ∀ k, replay? (.both none) (timerCalls (effectsOf (e.run (ts.take k)).2)) =
    some (e.run (ts.take k)).1.tagsInFlight
  /-- The tags armed for a class have ascending numbers. -/
  ascending : ∀ c, (armedBy (classLog c (e.run ts).2)).Pairwise (·.epoch < ·.epoch)
  once : (armedBy (effectsOf (e.run ts).2)).Nodup
  /-- The tag of a request that has ended is not that of a request in flight, whether its timer had
  been armed or the driver had refused it. A timer that fires with such a tag does nothing. -/
  stale : ∀ k, ∀ tag ∈ endedBy (effectsOf (e.run (ts.take k)).2),
    (∀ c, (e.run (ts.take k)).1.tagsInFlight.get c ≠ some tag) ∧
      (e.run (ts.take k)).1.onTimeout tag = ((e.run (ts.take k)).1, [])

private theorem ascending_run (config : EngineConfig) (driver : σ) (ts : List (Turn σ))
    (c : ScanClass)
    (few : admissions c ts ((Engine.initial config driver).run ts).2 < UInt64.size) :
    (armedBy (classLog c ((Engine.initial config driver).run ts).2)).Pairwise
      (·.epoch < ·.epoch) := by
  obtain ⟨armed, same, numbered⟩ := exists_numbered config driver c ts
  rw [same, List.pairwise_map]
  apply numbered.ascending.imp_of_mem
  intro _ _ _ member lt
  exact serialTag_epoch_lt lt (Nat.lt_of_le_of_lt (numbered.bounded _ member) few)

/-- Tags are armed once if the tags of each class are. -/
private theorem nodup_armedBy {outcomes : List Outcome}
    (ascending : ∀ c, (armedBy (classLog c outcomes)).Pairwise (·.epoch < ·.epoch)) :
    (armedBy (effectsOf outcomes)).Nodup := by
  rw [List.nodup_iff_count_le_one]
  intro tag
  have own : (armedBy (classLog tag.scanClass outcomes)).Nodup := by
    refine (ascending tag.scanClass).imp fun lt same => ?_
    rw [same] at lt
    exact UInt64.lt_irrefl _ lt
  -- All occurrences of a tag are in the log of its class.
  have elsewhere : (armedBy (classLog tag.scanClass outcomes)).count tag =
      (armedBy (effectsOf outcomes)).count tag := by
    rw [armedBy_classLog]
    exact List.count_filter (decide_eq_true rfl)
  rw [← elsewhere]
  exact List.nodup_iff_count_le_one.1 own tag

/-- A request in flight was admitted after all that have ended. -/
private theorem tag_ne_of_ended (config : EngineConfig) (driver : σ) (ts : List (Turn σ))
    (few : ∀ c, admissions c ts ((Engine.initial config driver).run ts).2 < UInt64.size)
    {tag : TimerTag} (ended : tag ∈ endedBy (effectsOf ((Engine.initial config driver).run ts).2))
    {c : ScanClass} {r : Request}
    (flight : ((Engine.initial config driver).run ts).1.inFlight? c = some r) : r.tag ≠ tag := by
  obtain ⟨armed, -, numbered⟩ := exists_numbered config driver c ts
  have current := numbered.inFlight r flight
  rintro rfl
  obtain ⟨handler, ending, member⟩ := mem_endedBy.1 ended
  have own : Effect.finish r.tag handler ending ∈
      classLog c ((Engine.initial config driver).run ts).2 := by
    refine List.mem_filter.2 ⟨member, decide_eq_true ?_⟩
    exact congrArg TimerTag.scanClass current
  obtain ⟨m, same, -, before⟩ := numbered.before r.tag (mem_endedBy.2 ⟨handler, ending, own⟩)
  -- The number of a request that has ended is below that of the one in flight, and neither wraps.
  have lt : m < admissions c ts ((Engine.initial config driver).run ts).2 :=
    before (Option.isSome_iff_exists.2 ⟨r, flight⟩)
  have equal := serialTag_inj (Nat.lt_trans lt (few c)) (few c) (same.symm.trans current)
  omega

/-- In a run that admits fewer than 2^64 requests of each class, the engine uses its timers in an
orderly way. -/
theorem timer_discipline (config : EngineConfig) (driver : σ) (ts : List (Turn σ))
    (few : ∀ c, admissions c ts ((Engine.initial config driver).run ts).2 < UInt64.size) :
    TimerDiscipline (Engine.initial config driver) ts := by
  have ascending c := ascending_run config driver ts c (few c)
  refine ⟨fun k => ?_, ascending, nodup_armedBy ascending, ?_⟩
  · have empty : (Engine.initial config driver).tagsInFlight = .both none := rfl
    rw [← empty]
    exact Engine.replay?_run _ _
  · intro k tag ended
    -- Fewer requests were admitted up to here.
    have fewer c := Nat.lt_of_le_of_lt (Engine.admissions_take_le (Engine.initial config driver)
      c ts k) (few c)
    have differs {c : ScanClass} {r : Request} := tag_ne_of_ended config driver (ts.take k) fewer
      ended (c := c) (r := r)
    constructor
    · intro c same
      rw [Engine.tagsInFlight_get] at same
      obtain ⟨r, flight, own⟩ := Option.map_eq_some_iff.1 same
      exact differs flight own
    · rw [Engine.onTimeout, if_neg]
      intro any
      obtain ⟨r, flight, epoch⟩ := Option.any_eq_true .. |>.1 any
      have tagged := Engine.run_tagged (Engine.tagged_initial config driver) (ts.take k)
      refine differs flight ?_
      rw [Request.tag, tagged _ _ flight, of_decide_eq_true epoch]

/-- A background scan times out, the driver refuses the next one, which uses up a number, and the
timer that fired is not taken for the one after it. -/
theorem timer_discipline_crossing :
    (∀ c, admissions c crossingTurns
        ((Engine.initial .standard (VirtualDriver.initial .standard)).run crossingTurns).2 <
          UInt64.size) ∧
      TimerDiscipline (Engine.initial .standard (VirtualDriver.initial .standard))
        crossingTurns := by
  have few c : admissions c crossingTurns
      ((Engine.initial .standard (VirtualDriver.initial .standard)).run crossingTurns).2 <
        UInt64.size := by
    refine Nat.lt_of_le_of_lt List.countP_le_length ?_
    rw [List.length_zip, Engine.length_run, Nat.min_self]
    decide
  exact ⟨few, timer_discipline _ _ crossingTurns few⟩

end Runs

end WifiScan

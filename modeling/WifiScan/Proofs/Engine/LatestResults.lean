import WifiScan.Proofs.Engine.DriverLog
import WifiScan.Proofs.Scan.Ranking
import WifiScan.Proofs.Scanner.Service

/-!
# Latest results

## Main result

`latest_results_law`: the latest results of a class are the ranking of what the driver gave for the
last request of the class that completed, under the number of that completion. They are in place
when the request's handler is told, and whoever asks after that is never given older ones.

## Proof strategy

`latestAfter` says what the latest results are after a history of completions. An operation adds at
most one completion to the history of a class and replaces the latest results accordingly
(`perform_completion`), so the law follows by induction on the run.
-/
namespace WifiScan

variable {σ : Type}

/-- A request that has completed, and the raw results that the driver gave for it. -/
structure Completion where
  request : Request
  raw : List ScanResult

/-- The results that a completed request keeps. -/
def Completion.results (config : EngineConfig) (d : Completion) : List ScanResult :=
  rank d.request.settings.maxApPerScan.toNat ((d.request.retention config).discovered d.raw)

/-- The latest results after a history of completions. -/
def latestAfter (config : EngineConfig) (done : List Completion) : ScanData :=
  match done.getLast? with
  | none => .empty
  | some last => ⟨.ofNat done.length, last.results config⟩

theorem latestAfter_concat (config : EngineConfig) (done : List Completion) (d : Completion) :
    latestAfter config (done ++ [d]) = ⟨(latestAfter config done).id + 1, d.results config⟩ := by
  have number : (latestAfter config done).id = .ofNat done.length := by
    cases done with
    | nil => rfl
    | cons first rest => simp only [latestAfter, List.getLast?_cons]
  rw [number, latestAfter, List.getLast?_concat, List.length_append, List.length_singleton,
    UInt32.ofNat_add]
  rfl

/-- The data that a log tells to have replaced the latest results of a class. -/
def storedIn (c : ScanClass) (effects : List Effect) : List ScanData :=
  effects.filterMap fun
    | .store d data => if d = c then some data else none
    | _ => none

theorem storedIn_append (c : ScanClass) (fx more : List Effect) :
    storedIn c (fx ++ more) = storedIn c fx ++ storedIn c more :=
  List.filterMap_append

theorem completedIn_forClass (c : ScanClass) (o : Outcome) :
    completedIn c (o.forClass c).effects = completedIn c o.effects := by
  refine filterMap_forClass (fun effect other => ?_) o
  split
  · exact if_neg other
  · rfl

theorem storedIn_forClass (c : ScanClass) (o : Outcome) :
    storedIn c (o.forClass c).effects = storedIn c o.effects := by
  refine filterMap_forClass (fun effect other => ?_) o
  split
  · exact if_neg other
  · rfl

private theorem split_concat {fx pre post : List Effect} {last effect : Effect}
    (split : fx ++ [last] = pre ++ effect :: post) (elsewhere : effect ∉ fx) : pre = fx := by
  rcases List.eq_nil_or_concat post with rfl | ⟨more, final, rfl⟩
  · exact (List.append_inj' split rfl).1.symm
  · -- Something comes after the effect, which then is not the last.
    have before : fx = pre ++ effect :: more := by
      rw [List.concat_eq_append, ← List.cons_append, ← List.append_assoc] at split
      exact (List.append_inj' split rfl).1
    exact absurd (before ▸ List.mem_append_right pre List.mem_cons_self) elsewhere

namespace Engine

/-- A step of a class that completes no request leaves the latest results as they are. -/
theorem LaneStep.latest_eq {e : Engine σ} {now : UInt64} {c : ScanClass}
    {admitted : Option Handler} {fx : List Effect} {lane : Lane}
    (step : e.LaneStep now c admitted fx lane) (tagged : e.Tagged) (none : completedIn c fx = []) :
    lane.latest = e.latest c ∧ storedIn c fx = [] := by
  cases step with
  | rest => exact ⟨rfl, rfl⟩
  | accepted idle sound made => exact ⟨rfl, rfl⟩
  | refused idle sound made => exact ⟨rfl, rfl⟩
  | failed flight => exact ⟨rfl, rfl⟩
  | @completed r raw discovered data flight retained ranked =>
    -- Its log would tell of the completion.
    have own : r.tag.scanClass = c := tagged c r flight
    simp only [completedIn_append, List.append_eq_nil_iff] at none
    simp only [completedIn, List.filterMap_cons, own, if_true] at none
    cases none.2

section Driver

variable [ScanDriver σ]

/-- The completion of a request of a class that an operation brings. The request was in flight
before. -/
def completion? (c : ScanClass) (e : Engine σ) (t : Turn σ) (o : Outcome) : Option Completion :=
  if completedIn c o.effects = [] then none
  else (e.inFlight? c).map fun r => ⟨r, (ScanDriver.results e.driver c t.now).1⟩

/-- The completions of a class in a run, in order. -/
def completionsIn (e : Engine σ) (c : ScanClass) (ts : List (Turn σ)) : List Completion :=
  e.collect (completion? c) ts

theorem completionsIn_concat (e : Engine σ) (c : ScanClass) (ts : List (Turn σ)) (t : Turn σ) :
    e.completionsIn c (ts ++ [t]) = e.completionsIn c ts ++
      (completion? c (e.run ts).1 t ((e.run ts).1.perform t).2).toList :=
  collect_concat ..

theorem latest_complete {e : Engine σ} {c : ScanClass} {r : Request}
    (flight : e.inFlight? c = some r) (now : UInt64) :
    (e.complete now c).1.latest c = ⟨(e.latest c).id + 1,
      (⟨r, (ScanDriver.results e.driver c now).1⟩ : Completion).results e.config⟩ := by
  have at? : (e.lanes.get c).inFlight = some r := flight
  simp only [complete, at?, latest, PerClass.get_set_self]
  rfl

/-- The new data is in place before the handler is told, which is the last thing that happens. -/
theorem complete_store {e : Engine σ} {c : ScanClass} {r : Request}
    (flight : e.inFlight? c = some r) (now : UInt64) :
    ∃ fx, (e.complete now c).2 = fx ++ [.finish r.tag r.handler .completed] ∧
      (∀ tag h, .finish tag h .completed ∉ fx) ∧
      storedIn c fx = [(e.complete now c).1.latest c] := by
  have reports (discovered : List ScanResult) : storedIn c (fullReports r discovered) = [] :=
    filterMap_fullReports _ (fun _ _ _ _ => rfl) r discovered
  refine ⟨_, (complete_effects flight now).trans (List.append_assoc _ [_] [_]).symm, ?_, ?_⟩
  · intro tag h member
    simp only [List.mem_append, List.mem_cons, List.not_mem_nil, reduceCtorEq, or_false,
      false_or] at member
    obtain ⟨result, bucket, report⟩ := eq_report_of_mem_fullReports member
    cases report
  · rw [latest_complete flight, storedIn_append, storedIn_append, reports]
    simp only [storedIn, List.filterMap_cons, List.filterMap_nil, if_true]
    rfl

/-- What an operation does to the history of completions of a class, and to its latest results. -/
theorem perform_completion {e : Engine σ} (tagged : e.Tagged) (t : Turn σ) (c : ScanClass) :
    (∃ r, e.inFlight? c = some r ∧
      completion? c e t (e.perform t).2 = some ⟨r, (ScanDriver.results e.driver c t.now).1⟩ ∧
      completedIn c (e.perform t).2.effects = [r.tag] ∧
      e.perform t = ((e.complete t.now c).1, ⟨.ok (), (e.complete t.now c).2⟩)) ∨
    completion? c e t (e.perform t).2 = none ∧ completedIn c (e.perform t).2.effects = [] ∧
      (e.perform t).1.latest c = e.latest c ∧ storedIn c (e.perform t).2.effects = [] := by
  rcases (e.perform_performs t).fetchedIn_eq tagged c with
    ⟨r, reported, completed, -⟩ | ⟨-, completed, -⟩
  · refine Or.inl ⟨r, reported.flight, ?_, completed, ?_⟩
    · rw [completion?, completed, if_neg (List.cons_ne_nil _ _), reported.flight]
      rfl
    · exact (e.perform_performs t).of_reported reported
  · right
    -- Without a completion of the class nothing of it is stored.
    have step := perform_lane tagged t c
    have quiet := step.latest_eq tagged ((completedIn_forClass c _).trans completed)
    rw [storedIn_forClass] at quiet
    exact ⟨if_pos completed, completed, quiet⟩

end Driver

end Engine

theorem Delivery.turns_take_eq {ds : List (Delivery σ)} {d : Delivery σ} {i j : Nat}
    (at? : ds[i]? = some d) (before : i < j) :
    turns true (ds.take j) = turns true (ds.take i) ++
      d.turn (liveAt ds i) :: (turns true (ds.take j)).drop (i + 1) := by
  have turn : (turns true (ds.take j))[i]? = some (d.turn (liveAt ds i)) := by
    rw [← take_turns, List.getElem?_take_of_lt before, getElem?_turns, at?]
    rfl
  have earlier : (turns true (ds.take j)).take i = turns true (ds.take i) := by
    rw [← take_turns, ← take_turns, List.take_take, Nat.min_eq_left (Nat.le_of_lt before)]
  obtain ⟨within, this⟩ := List.getElem?_eq_some_iff.1 turn
  calc turns true (ds.take j)
      = (turns true (ds.take j)).take i ++ (turns true (ds.take j)).drop i :=
        (List.take_append_drop ..).symm
    _ = _ := by rw [earlier, List.drop_eq_getElem_cons within, this]

section Runs

variable [ScanDriver σ]

/-- The latest results of a class after a run. -/
structure LatestResults (e : Engine σ) (ts : List (Turn σ)) (c : ScanClass) : Prop where
  law : (e.run ts).1.latest c = latestAfter e.config (e.completionsIn c ts)
  /-- The completions are those that handlers were told of. -/
  completions : (e.completionsIn c ts).map (·.request.tag) = completedIn c (effectsOf (e.run ts).2)
  ordered : ((e.run ts).1.latest c).results.Pairwise ScanResult.Precedes
  /-- The results are at most as many as the request that completed last wants, and none was
  captured before its start. -/
  bounded : ∀ last, (e.completionsIn c ts).getLast? = some last →
    ((e.run ts).1.latest c).results.length ≤ last.request.settings.maxApPerScan.toNat ∧
      ∀ result ∈ ((e.run ts).1.latest c).results, last.request.startTimeUs ≤ result.timestampUs
  /-- An operation that completes no request of the class leaves them as they are. -/
  unchanged : ∀ t, completedIn c ((e.run ts).1.perform t).2.effects = [] →
    ((e.run ts).1.perform t).1.latest c = (e.run ts).1.latest c
  /-- The log tells of every replacement. -/
  stored : (storedIn c (effectsOf (e.run ts).2)).getLastD .empty = (e.run ts).1.latest c
  /-- Before a handler is told that its request has completed, the results have been replaced by
  those that the operation leaves. -/
  told : ∀ t fx tag h more,
    ((e.run ts).1.perform t).2.effects = fx ++ .finish tag h .completed :: more →
      tag.scanClass = c → (storedIn c fx).getLast? = some (((e.run ts).1.perform t).1.latest c)

/-- The answers of a scanner to those who ask for the latest results of a class. -/
structure AnswersCurrent [Wait] (s : Scanner σ) (ds : List (Delivery σ)) (c : ScanClass) :
    Prop where
  answer : ∀ j time now, ds[j]? = some (.command time now (.latest c)) → Delivery.liveAt ds j →
    (s.receiveAll ds).2[j]? = some ⟨.ok (.data (latestAfter s.engine.config
      (s.engine.completionsIn c (Delivery.turns true (ds.take j))))), []⟩
  /-- Every completion that a handler was told of is in the histories that later answers go by. -/
  counted : ∀ i j v, i < j → (s.receiveAll ds).2[i]? = some v → ∀ tag ∈ completedIn c v.effects,
    ∃ d more, d.request.tag = tag ∧ s.engine.completionsIn c (Delivery.turns true (ds.take j)) =
      s.engine.completionsIn c (Delivery.turns true (ds.take i)) ++ d :: more

namespace Engine

theorem run_latest (config : EngineConfig) (driver : σ) (c : ScanClass) (ts : List (Turn σ)) :
    ((initial config driver).run ts).1.latest c =
        latestAfter config ((initial config driver).completionsIn c ts) ∧
      ((initial config driver).completionsIn c ts).map (·.request.tag) =
        completedIn c (effectsOf ((initial config driver).run ts).2) ∧
      (storedIn c (effectsOf ((initial config driver).run ts).2)).getLastD .empty =
        ((initial config driver).run ts).1.latest c := by
  induction ts using List.reverseRecOn with
  | nil => cases c <;> exact ⟨rfl, rfl, rfl⟩
  | append_singleton ts t ih =>
    obtain ⟨law, completions, stored⟩ := ih
    have tagged := run_tagged (tagged_initial config driver) ts
    rw [completionsIn_concat, run_concat, effectsOf_concat, completedIn_append, storedIn_append,
      List.map_append, completions]
    rcases perform_completion tagged t c with ⟨r, flight, completion, completed, performed⟩ |
      ⟨completion, completed, latest, quiet⟩
    · -- One more completion: the data is numbered by it and ranked from what it fetched.
      obtain ⟨fx, effects, -, replaced⟩ := complete_store flight t.now
      have telling : storedIn c [.finish r.tag r.handler .completed] = [] := rfl
      rw [completion, completed, performed]
      simp only [effects, storedIn_append, replaced, telling, List.append_nil,
        List.getLastD_concat, latest_complete flight, law, run_config]
      exact ⟨(latestAfter_concat ..).symm, rfl, trivial⟩
    · rw [completion, completed, latest, quiet]
      simp only [Option.toList_none, List.append_nil, List.map_nil]
      exact ⟨law, trivial, stored⟩

/-- A completion that a handler is told of stays in the history of its class. -/
theorem completionsIn_told {config : EngineConfig} {driver : σ} {c : ScanClass}
    {ts : List (Turn σ)} {t : Turn σ} {tag : TimerTag}
    (told : tag ∈
      completedIn c (((initial config driver).run ts).1.perform t).2.effects)
    (us : List (Turn σ)) :
    ∃ d more, d.request.tag = tag ∧ (initial config driver).completionsIn c (ts ++ t :: us) =
      (initial config driver).completionsIn c ts ++ d :: more := by
  have tagged := run_tagged (tagged_initial config driver) ts
  rcases perform_completion tagged t c with ⟨r, -, completion, completed, -⟩ | ⟨-, completed, -⟩
  · rw [completed, List.mem_singleton] at told
    refine ⟨⟨r, (ScanDriver.results ((initial config driver).run ts).1.driver c t.now).1⟩,
      ((((initial config driver).run ts).1.perform t).1.collect (completion? c) us), told.symm,
      (collect_append ..).trans ?_⟩
    simp only [collect, completion]
    rfl
  · rw [completed] at told
    cases told

theorem latestResults_run (config : EngineConfig) (driver : σ) (ts : List (Turn σ))
    (c : ScanClass) : LatestResults (initial config driver) ts c := by
  obtain ⟨law, completions, stored⟩ := run_latest config driver c ts
  have tagged := run_tagged (tagged_initial config driver) ts
  -- Either there is nothing, or a ranking of what the last completion kept.
  have ranked : ((initial config driver).completionsIn c ts = [] ∧
      (((initial config driver).run ts).1.latest c).results = []) ∨
      ∃ last, ((initial config driver).completionsIn c ts).getLast? = some last ∧
        (((initial config driver).run ts).1.latest c).results = last.results config := by
    rw [law, latestAfter]
    cases done : ((initial config driver).completionsIn c ts).getLast? with
    | none => exact Or.inl ⟨List.getLast?_eq_none_iff.1 done, rfl⟩
    | some last => exact Or.inr ⟨last, rfl, rfl⟩
  refine ⟨law, completions, ?_, ?_, ?_, stored, ?_⟩
  · rcases ranked with ⟨-, nothing⟩ | ⟨last, -, results⟩
    · rw [nothing]
      exact .nil
    · rw [results]
      exact pairwise_rank ..
  · intro last final
    rcases ranked with ⟨nothing, -⟩ | ⟨last', final', results⟩
    · rw [nothing] at final
      cases final
    · cases final.symm.trans final'
      rw [results]
      exact ⟨length_rank_le .., fun result member =>
        Retention.start_le (mem_of_mem_rank member)⟩
  · intro t completed
    rcases perform_completion tagged t c with ⟨r, -, -, other, -⟩ | ⟨-, -, latest, -⟩
    · cases completed.symm.trans other
    · exact latest
  · intro t fx tag h more split own
    have told : tag ∈ completedIn c (((initial config driver).run ts).1.perform t).2.effects := by
      rw [split]
      exact List.mem_filterMap.2
        ⟨_, List.mem_append_right _ List.mem_cons_self, if_pos own⟩
    rcases perform_completion tagged t c with ⟨r, flight, -, -, performed⟩ | ⟨-, completed, -⟩
    · obtain ⟨before, effects, elsewhere, replaced⟩ := complete_store flight t.now
      rw [performed] at split ⊢
      rw [split_concat (effects.symm.trans split) (elsewhere tag h), replaced]
      rfl
    · rw [completed] at told
      cases told

end Engine

namespace Scanner

variable [Wait]

theorem receive_latest (s : Scanner σ) (running : s.running = true) (time : Nat) (now : UInt64)
    (c : ScanClass) :
    (s.receive (.command time now (.latest c))).2 = ⟨.ok (.data (s.engine.latest c)), []⟩ := by
  simp only [receive, serve, running, if_true]

theorem answersCurrent_receiveAll (config : EngineConfig) (driver : σ) (ds : List (Delivery σ))
    (c : ScanClass) : AnswersCurrent (initial config driver) ds c := by
  have engine (k : Nat) : ((initial config driver).receiveAll (ds.take k)).1.engine =
      ((Engine.initial config driver).run (Delivery.turns true (ds.take k))).1 :=
    receiveAll_engine ..
  constructor
  · intro j time now at? live
    have running : ((initial config driver).receiveAll (ds.take j)).1.running = true := by
      rw [receiveAll_running]
      exact live
    rw [getElem?_receiveAll, at?, Option.map_some, receive_latest _ running, engine,
      (Engine.run_latest config driver c _).1]
    rfl
  · intro i j v before served tag told
    rw [getElem?_receiveAll] at served
    obtain ⟨d, at?, rfl⟩ := Option.map_eq_some_iff.1 served
    -- The handler was told by the operation that the delivery was.
    have running : ((initial config driver).receiveAll (ds.take i)).1.running =
        Delivery.liveAt ds i := receiveAll_running ..
    rw [(receive_eq_perform _ d).2, engine, running] at told
    rw [Delivery.turns_take_eq at? before]
    exact Engine.completionsIn_told told _

end Scanner

/-- The latest results of a class are those of its last completion, and the answers to those who ask
for them follow. -/
theorem latest_results_law [Wait] (config : EngineConfig) (driver : σ) (c : ScanClass) :
    (∀ ts, LatestResults (Engine.initial config driver) ts c) ∧
      ∀ ds, AnswersCurrent (Scanner.initial config driver) ds c :=
  ⟨fun ts => Engine.latestResults_run config driver ts c,
    fun ds => Scanner.answersCurrent_receiveAll config driver ds c⟩

end Runs

end WifiScan

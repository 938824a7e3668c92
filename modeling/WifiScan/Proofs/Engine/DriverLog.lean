import WifiScan.Proofs.Engine.ClassLog

/-!
# What the engine asks of its driver

The log of a run tells what the driver was asked and what it answered. It tells the truth: a driver
that is asked the same from the start, one exchange after another, gives the answers of the log and
ends as the engine's driver (`converse?_run`).

`Performs` says case by case what an operation comes to. Laws about the driver's part in a run are
read off it.
-/
namespace WifiScan

variable {σ : Type}

/-- A question of the engine to its driver, with the answer. -/
inductive Exchange where
  | command (scanClass : ScanClass) (frequencies : FrequencySet) (hidden : NetworkIds)
      (accepted : Bool)
  | fetch (scanClass : ScanClass) (raw : List ScanResult)
  deriving DecidableEq

def Effect.exchange? : Effect → Option Exchange
  | command c frequencies hidden accepted => some (.command c frequencies hidden accepted)
  | fetch c raw => some (.fetch c raw)
  | _ => none

def exchanges (effects : List Effect) : List Exchange := effects.filterMap Effect.exchange?

/-- A command to the driver, whatever the answer. -/
abbrev ScanCommand := ScanClass × FrequencySet × NetworkIds

def Exchange.command? : Exchange → Option ScanCommand
  | command c frequencies hidden _ => some (c, frequencies, hidden)
  | fetch .. => none

/-- The command that a request is given to the driver with. -/
def Request.command (r : Request) : ScanCommand :=
  (r.scanClass, r.scanFrequencies, r.settings.hiddenNetworkIds)

/-- The commands that a log tells of. -/
def commandsIn (effects : List Effect) : List ScanCommand :=
  (exchanges effects).filterMap Exchange.command?

/-- The raw results that a log tells to have been fetched for a class. -/
def fetchedIn (c : ScanClass) (effects : List Effect) : List (List ScanResult) :=
  (exchanges effects).filterMap fun
    | .fetch d raw => if d = c then some raw else none
    | .command .. => none

/-- The requests of a class that a log tells to have completed. -/
def completedIn (c : ScanClass) (effects : List Effect) : List TimerTag :=
  effects.filterMap fun
    | .finish tag _ .completed => if tag.scanClass = c then some tag else none
    | _ => none

theorem exchanges_append (fx more : List Effect) :
    exchanges (fx ++ more) = exchanges fx ++ exchanges more :=
  List.filterMap_append

theorem commandsIn_append (fx more : List Effect) :
    commandsIn (fx ++ more) = commandsIn fx ++ commandsIn more := by
  rw [commandsIn, exchanges_append, List.filterMap_append, ← commandsIn, ← commandsIn]

theorem completedIn_append (c : ScanClass) (fx more : List Effect) :
    completedIn c (fx ++ more) = completedIn c fx ++ completedIn c more :=
  List.filterMap_append

/-- What an operation does to the driver from outside. -/
def Operation.change : Operation σ → σ → σ
  | script change => change
  | _ => id

section Driver

variable [ScanDriver σ]

/-- The driver after a question, provided that it gives the answer. -/
def Exchange.ask? (now : UInt64) (d : σ) : Exchange → Option σ
  | command c frequencies hidden accepted =>
    let (answer, d') := ScanDriver.command d c frequencies hidden
    if answer = accepted then some d' else none
  | fetch c raw =>
    let (answer, d') := ScanDriver.results d c now
    if answer = raw then some d' else none

/-- The driver after an operation, provided that it gives all the answers of the operation's log. -/
def converse? (d : σ) (p : Turn σ × Outcome) : Option σ :=
  (exchanges p.2.effects).foldlM (Exchange.ask? p.1.now) (p.1.operation.change d)

namespace Engine

/-! ### What an operation comes to -/

/-- The request that an operation admits, if it is a start that is answered without an error. -/
def made? (e : Engine σ) (t : Turn σ) (o : Outcome) : Option Request :=
  match t.operation, o.answer with
  | .start c (some s) (some h), .ok () => some (e.makeRequest t.now c s h)
  | _, _ => none

/-- The requests that a run admits, in order. -/
def madeIn (e : Engine σ) (ts : List (Turn σ)) : List Request := e.collect made? ts

/-- By an operation the driver tells that it has the results of a request in flight. -/
structure Reported (e : Engine σ) (t : Turn σ) (c : ScanClass) (r : Request) : Prop where
  operation : t.operation =
    .driverEvent ⟨ScanDriver.interface e.driver, c, .resultsAvailable⟩
  flight : e.inFlight? c = some r

/-- An operation comes to an engine and an outcome. -/
inductive Performs (e : Engine σ) (t : Turn σ) : Engine σ × Outcome → Prop
  | refused {c : ScanClass} {settings : Option ScanSettings} {handler : Option Handler}
      {error : ScanError} (operation : t.operation = .start c settings handler) :
      Performs e t (e, ⟨.error error, []⟩)
  | launched {c : ScanClass} {s : ScanSettings} {h : Handler} {r : Request}
      (operation : t.operation = .start c (some s) (some h)) (sound : s.fault? = none)
      (idle : e.inFlight? c = none) (made : e.makeRequest t.now c s h = r) :
      Performs e t ((e.launch r).1, ⟨.ok (), (e.launch r).2⟩)
  | completed {c : ScanClass} {r : Request} (reported : e.Reported t c r) :
      Performs e t ((e.complete t.now c).1, ⟨.ok (), (e.complete t.now c).2⟩)
  | failed {c : ScanClass} {r : Request}
      (operation : t.operation = .driverEvent ⟨ScanDriver.interface e.driver, c, .scanFailed⟩)
      (flight : e.inFlight? c = some r) :
      Performs e t ((e.fail c .driverFailed).1, ⟨.ok (), (e.fail c .driverFailed).2⟩)
  | timedOut {tag : TimerTag} {r : Request} (operation : t.operation = .timeout tag)
      (flight : e.inFlight? tag.scanClass = some r) (epoch : r.epoch = tag.epoch) :
      Performs e t ((e.fail tag.scanClass .timedOut).1,
        ⟨.ok (), (e.fail tag.scanClass .timedOut).2⟩)
  | stopped {reason : FailureReason} (operation : t.operation = .failAll reason) :
      Performs e t ((e.failAll reason).1, ⟨.ok (), (e.failAll reason).2⟩)
  /-- Another interface's event, or one for a class without a request -/
  | unheard {event : DriverEvent} (operation : t.operation = .driverEvent event)
      (nobody : event.interface = ScanDriver.interface e.driver →
        e.inFlight? event.scanClass = none) :
      Performs e t (e, ⟨.ok (), []⟩)
  /-- The timer of a request that has ended -/
  | late {tag : TimerTag} (operation : t.operation = .timeout tag)
      (ended : ∀ r, e.inFlight? tag.scanClass = some r → r.epoch ≠ tag.epoch) :
      Performs e t (e, ⟨.ok (), []⟩)
  | scripted {change : σ → σ} (operation : t.operation = .script change) :
      Performs e t ({ e with driver := change e.driver }, ⟨.ok (), []⟩)

theorem perform_performs (e : Engine σ) (t : Turn σ) : e.Performs t (e.perform t) := by
  obtain ⟨now, operation⟩ := t
  cases operation with
  | start c settings handler =>
    simp only [perform]
    cases started : e.start now c settings handler with
    | error error => exact .refused rfl
    | ok out =>
      obtain ⟨s, h, rfl, rfl, sound, idle, rfl⟩ := (start_eq_ok_iff ..).1 started
      exact .launched rfl sound idle rfl
  | driverEvent event =>
    obtain ⟨interface, c, kind⟩ := event
    simp only [perform, onDriverEvent]
    -- A report is heard if it is of the own interface and finds a request of its class.
    by_cases own : interface = ScanDriver.interface e.driver
    · subst own
      rw [if_pos rfl]
      cases flight : e.inFlight? c with
      | none =>
        have idle : (e.lanes.get c).inFlight = none := flight
        cases kind with
        | resultsAvailable => simpa only [complete, idle] using .unheard rfl fun _ => flight
        | scanFailed => simpa only [fail, idle] using .unheard rfl fun _ => flight
      | some r =>
        cases kind with
        | resultsAvailable => exact .completed ⟨rfl, flight⟩
        | scanFailed => exact .failed rfl flight
    · rw [if_neg own]
      exact .unheard rfl fun own' => absurd own' own
  | timeout tag =>
    simp only [perform, onTimeout]
    -- A timer is late unless its epoch is that of the request in flight.
    by_cases current : (e.inFlight? tag.scanClass).any (·.epoch = tag.epoch) = true
    · rw [if_pos current]
      obtain ⟨r, flight, epoch⟩ := Option.any_eq_true .. |>.1 current
      exact .timedOut rfl flight (of_decide_eq_true epoch)
    · rw [if_neg current]
      refine .late rfl fun r flight epoch => current ?_
      rw [flight, Option.any_some, decide_eq_true epoch]
  | failAll reason => exact .stopped rfl
  | script change => exact .scripted rfl

/-! ### The log of an operation -/

theorem exchanges_launch (e : Engine σ) (r : Request) :
    exchanges (e.launch r).2 = [.command r.scanClass r.scanFrequencies r.settings.hiddenNetworkIds
      (ScanDriver.command e.driver r.scanClass r.scanFrequencies
        r.settings.hiddenNetworkIds).1] := by
  simp only [launch]
  split <;> rfl

theorem completedIn_launch (e : Engine σ) (r : Request) (c : ScanClass) :
    completedIn c (e.launch r).2 = [] := by
  simp only [launch]
  split <;> rfl

theorem complete_effects {e : Engine σ} {c : ScanClass} {r : Request}
    (flight : e.inFlight? c = some r) (now : UInt64) :
    let raw := (ScanDriver.results e.driver c now).1
    let discovered := (r.retention e.config).discovered raw
    (e.complete now c).2 = [.disarm c, .fetch c raw] ++ fullReports r discovered ++
      [.store c ⟨(e.latest c).id + 1, rank r.settings.maxApPerScan.toNat discovered⟩,
        .finish r.tag r.handler .completed] := by
  have at? : (e.lanes.get c).inFlight = some r := flight
  simp only [complete, at?]
  rfl

theorem exchanges_complete {e : Engine σ} {c : ScanClass} {r : Request}
    (flight : e.inFlight? c = some r) (now : UInt64) :
    exchanges (e.complete now c).2 = [.fetch c (ScanDriver.results e.driver c now).1] := by
  have reports (discovered : List ScanResult) : exchanges (fullReports r discovered) = [] :=
    filterMap_fullReports _ (fun _ _ _ _ => rfl) r discovered
  rw [complete_effects flight, exchanges_append, exchanges_append, reports]
  rfl

theorem completedIn_complete {e : Engine σ} {c : ScanClass} {r : Request}
    (flight : e.inFlight? c = some r) (own : r.scanClass = c) (now : UInt64) (d : ScanClass) :
    completedIn d (e.complete now c).2 = if c = d then [r.tag] else [] := by
  have reports (discovered : List ScanResult) : completedIn d (fullReports r discovered) = [] :=
    filterMap_fullReports _ (fun _ _ _ _ => rfl) r discovered
  have tag : r.tag.scanClass = c := own
  rw [complete_effects flight, completedIn_append, completedIn_append, reports]
  by_cases same : c = d <;>
    simp only [completedIn, List.filterMap_cons, List.filterMap_nil, tag, same, if_true, if_false,
      List.nil_append]

end Engine

end Driver

namespace Engine

theorem exchanges_fail (e : Engine σ) (c : ScanClass) (reason : FailureReason) :
    exchanges (e.fail c reason).2 = [] := by
  unfold fail
  dsimp only
  split <;> rfl

theorem completedIn_fail (e : Engine σ) (c : ScanClass) (reason : FailureReason) (d : ScanClass) :
    completedIn d (e.fail c reason).2 = [] := by
  unfold fail
  dsimp only
  split <;> rfl

theorem exchanges_failAll (e : Engine σ) (reason : FailureReason) :
    exchanges (e.failAll reason).2 = [] := by
  rw [failAll_eq]
  simp only [exchanges_append, exchanges_fail, List.append_nil]

theorem completedIn_failAll (e : Engine σ) (reason : FailureReason) (d : ScanClass) :
    completedIn d (e.failAll reason).2 = [] := by
  rw [failAll_eq]
  simp only [completedIn_append, completedIn_fail, List.append_nil]

theorem failAll_driver (e : Engine σ) (reason : FailureReason) :
    (e.failAll reason).1.driver = e.driver := by
  rw [failAll_eq]
  simp only [fail_driver]

end Engine

section Driver

variable [ScanDriver σ]

namespace Engine.Performs

variable {e : Engine σ} {t : Turn σ} {out : Engine σ × Outcome}

/-- What the log says about the driver is true. -/
theorem converse?_eq (performs : e.Performs t out) :
    converse? e.driver (t, out.2) = some out.1.driver := by
  cases performs with
  | refused operation | unheard operation | late operation | scripted operation =>
    simp only [converse?, operation]
    rfl
  | @launched c s h r operation sound idle made =>
    simp only [converse?, operation, exchanges_launch, launch_driver, List.foldlM_cons,
      List.foldlM_nil, Exchange.ask?, Operation.change, id_eq, if_true]
    rfl
  | @completed c r reported =>
    -- Results are fetched only while the class scans, which it does when they are reported.
    have scanning : e.isScanning c = true := Option.isSome_iff_exists.2 ⟨r, reported.flight⟩
    simp only [converse?, reported.operation, exchanges_complete reported.flight, complete_driver,
      scanning, List.foldlM_cons, List.foldlM_nil, Exchange.ask?, Operation.change, id_eq, if_true]
    rfl
  | failed operation | timedOut operation =>
    simp only [converse?, operation, exchanges_fail, fail_driver]
    rfl
  | stopped operation =>
    simp only [converse?, operation, exchanges_failAll, failAll_driver]
    rfl

/-- The driver is commanded for the request that is admitted, and for no other. -/
theorem commandsIn_eq (performs : e.Performs t out) :
    commandsIn out.2.effects = (e.made? t out.2).toList.map Request.command := by
  cases performs with
  | refused operation | unheard operation | late operation | scripted operation =>
    simp only [made?, operation]
    rfl
  | launched operation sound idle made =>
    simp only [made?, operation, made, commandsIn, exchanges_launch]
    rfl
  | completed reported =>
    simp only [made?, reported.operation, commandsIn, exchanges_complete reported.flight]
    rfl
  | failed operation | timedOut operation =>
    simp only [made?, operation, commandsIn, exchanges_fail]
    rfl
  | stopped operation =>
    simp only [made?, operation, commandsIn, exchanges_failAll]
    rfl

/-- Results are fetched when the driver tells that it has those of a request in flight, once, and
never otherwise. -/
theorem fetchedIn_eq (performs : e.Performs t out) (tagged : e.Tagged) (c : ScanClass) :
    (∃ r, e.Reported t c r ∧ completedIn c out.2.effects = [r.tag] ∧
      fetchedIn c out.2.effects = [(ScanDriver.results e.driver c t.now).1]) ∨
    (∀ r, ¬e.Reported t c r) ∧ completedIn c out.2.effects = [] ∧
      fetchedIn c out.2.effects = [] := by
  cases performs with
  | @completed d r reported =>
    have own : r.scanClass = d := tagged d r reported.flight
    simp only [completedIn_complete reported.flight own, fetchedIn,
      exchanges_complete reported.flight, List.filterMap_cons, List.filterMap_nil]
    by_cases same : d = c
    · subst same
      exact Or.inl ⟨r, reported, if_pos rfl, by rw [if_pos rfl]⟩
    · refine Or.inr ⟨fun r' other => ?_, if_neg same, by rw [if_neg same]⟩
      cases reported.operation.symm.trans other.operation
      exact same rfl
  | refused operation | late operation | scripted operation =>
    refine Or.inr ⟨fun r reported => ?_, rfl, rfl⟩
    cases operation.symm.trans reported.operation
  | launched operation sound idle made =>
    refine Or.inr ⟨fun r reported => ?_, completedIn_launch .., ?_⟩
    · cases operation.symm.trans reported.operation
    · simp only [fetchedIn, exchanges_launch]
      rfl
  | failed operation | timedOut operation =>
    refine Or.inr ⟨fun r reported => ?_, completedIn_fail .., ?_⟩
    · cases operation.symm.trans reported.operation
    · simp only [fetchedIn, exchanges_fail, List.filterMap_nil]
  | stopped operation =>
    refine Or.inr ⟨fun r reported => ?_, completedIn_failAll .., ?_⟩
    · cases operation.symm.trans reported.operation
    · simp only [fetchedIn, exchanges_failAll, List.filterMap_nil]
  | unheard operation nobody =>
    -- The driver's own event would have found the request.
    refine Or.inr ⟨fun r reported => ?_, rfl, rfl⟩
    cases operation.symm.trans reported.operation
    cases (nobody rfl).symm.trans reported.flight

theorem made?_isSome_iff (performs : e.Performs t out) :
    (e.made? t out.2).isSome ↔
      (∃ c s h, t.operation = .start c s h) ∧ out.2.answer = .ok () := by
  cases performs with
  | completed reported => simp [made?, reported.operation]
  | refused operation | launched operation | failed operation | timedOut operation
  | stopped operation | unheard operation | late operation | scripted operation =>
    simp [made?, operation]

/-- An operation in which the driver tells that it has the results of a request completes it. -/
theorem of_reported (performs : e.Performs t out) {c : ScanClass} {r : Request}
    (reported : e.Reported t c r) :
    out = ((e.complete t.now c).1, ⟨.ok (), (e.complete t.now c).2⟩) := by
  cases performs with
  | completed own =>
    cases own.operation.symm.trans reported.operation
    rfl
  | unheard operation nobody =>
    cases operation.symm.trans reported.operation
    cases (nobody rfl).symm.trans reported.flight
  | refused operation | launched operation | failed operation | timedOut operation
  | stopped operation | late operation | scripted operation =>
    cases operation.symm.trans reported.operation

/-- A request is admitted for a handler by making it and launching it. -/
theorem of_admitted? (performs : e.Performs t out) {c : ScanClass} {h : Handler}
    (admits : t.admitted? out.2 c = some h) :
    ∃ s, e.made? t out.2 = some (e.makeRequest t.now c s h) ∧
      out.1 = (e.launch (e.makeRequest t.now c s h)).1 := by
  cases performs with
  | @launched d s h' r operation sound idle made =>
    simp only [Turn.admitted?, operation] at admits
    split at admits
    next same =>
      cases admits
      subst same made
      exact ⟨s, by simp only [made?, operation], rfl⟩
    next => cases admits
  | completed reported => simp only [Turn.admitted?, reported.operation, reduceCtorEq] at admits
  | refused operation | failed operation | timedOut operation | stopped operation
  | unheard operation | late operation | scripted operation =>
    -- No start was answered without an error.
    simp only [Turn.admitted?, operation, reduceCtorEq] at admits

end Engine.Performs

namespace Engine

theorem converse?_run (e : Engine σ) (ts : List (Turn σ)) :
    (ts.zip (e.run ts).2).foldlM converse? e.driver = some (e.run ts).1.driver := by
  induction ts generalizing e with
  | nil => rfl
  | cons t ts ih =>
    simp only [run, List.zip_cons_cons, List.foldlM_cons, (e.perform_performs t).converse?_eq]
    exact ih (e.perform t).1

theorem commandsIn_run (e : Engine σ) (ts : List (Turn σ)) :
    commandsIn (effectsOf (e.run ts).2) = (e.madeIn ts).map Request.command := by
  induction ts using List.reverseRecOn with
  | nil => rfl
  | append_singleton ts t ih =>
    have made : e.madeIn (ts ++ [t]) =
        e.madeIn ts ++ ((e.run ts).1.made? t ((e.run ts).1.perform t).2).toList :=
      e.collect_concat made? ts t
    rw [run_concat, effectsOf_concat, commandsIn_append, ih, made, List.map_append,
      ((e.run ts).1.perform_performs t).commandsIn_eq]

end Engine

end Driver

end WifiScan

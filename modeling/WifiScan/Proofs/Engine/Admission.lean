import WifiScan.Proofs.Engine.Run
import WifiScan.Proofs.Scan.Faults

/-!
# Admission

A start looks at its settings, its handler and its class, in this order, and only then changes
anything. `Admission.start` is the start as a program that changes the engine in place, one
statement after another, and that an error leaves where it stands. So it is a fact about the order
of its statements that an error changes nothing (`Admission.run_start`).

## Main result

`start_settled`: the answer to a start is determined by its arguments and by whether the class has a
request in flight. An error leaves everything as it was, and an admitted request is in flight
afterwards exactly if the driver has taken it.
-/
namespace WifiScan

variable {σ : Type}

/-! ### Starting in place -/

/-- A program that changes an engine in place and does things to others in order. An error leaves
all of it as it stands. -/
abbrev Admission (σ : Type) := ExceptT ScanError (StateM (Engine σ × List Effect))

namespace Admission

def engine : Admission σ (Engine σ) := return (← get).1

def change (f : Engine σ → Engine σ) : Admission σ Unit := modify fun (e, log) => (f e, log)

def changeLane (c : ScanClass) (f : Lane → Lane) : Admission σ Unit :=
  change fun e => { e with lanes := e.lanes.set c (f (e.lanes.get c)) }

def effect (effect : Effect) : Admission σ Unit := modify fun (e, log) => (e, log ++ [effect])

/-- Ends with an error, if there is one. -/
def refuse : Option ScanError → Admission σ Unit
  | some error => throw error
  | none => pure ()

/-- An argument, which has to be given. -/
def given {α : Type} (fault : RequestFault) : Option α → Admission σ α
  | some a => pure a
  | none => throw (.invalidRequest fault)

/-- Counts one request more, and makes it under its number. -/
def makeRequest (now : UInt64) (c : ScanClass) (settings : ScanSettings) (handler : Handler) :
    Admission σ Request := do
  let resolved := (← engine).config.resolve settings.buckets
  changeLane c fun lane => { lane with epoch := lane.epoch + 1 }
  let epoch := ((← engine).lanes.get c).epoch
  return {
    scanClass := c, epoch, settings, handler, startTimeUs := now,
    scanFrequencies := resolved.scan, validFrequencies := resolved.valid,
    bucketFrequencies := resolved.perBucket }

section Driver

variable [ScanDriver σ]

/-- Gives a request to the driver, and returns whether the driver takes it. -/
def command (r : Request) : Admission σ Bool := do
  let (accepted, driver) := ScanDriver.command (← engine).driver r.scanClass r.scanFrequencies
    r.settings.hiddenNetworkIds
  change fun e => { e with driver }
  effect (.command r.scanClass r.scanFrequencies r.settings.hiddenNetworkIds accepted)
  return accepted

/-- Leaves a request in flight that the driver takes, and fails one that it refuses. -/
def launch (r : Request) : Admission σ Unit := do
  if ← command r then
    effect (.arm r.tag (← engine).config.scanTimeoutMs)
    changeLane r.scanClass fun lane => { lane with inFlight := some r }
  else
    effect (.finish r.tag r.handler (.failed .driverRejected))

def start (now : UInt64) (c : ScanClass) (settings : Option ScanSettings)
    (handler : Option Handler) : Admission σ Unit := do
  let settings ← given .missingSettings settings
  let handler ← given .missingHandler handler
  refuse (settings.fault?.map .invalidRequest)
  refuse (if (← engine).isScanning c then some (.busy c) else none)
  -- From here on the engine changes.
  launch (← makeRequest now c settings handler)

end Driver

theorem run_bind {α β : Type} (p : Admission σ α) (q : α → Admission σ β)
    (s : Engine σ × List Effect) :
    (p >>= q).run s =
      match p.run s with
      | (.ok a, s) => (q a).run s
      | (.error error, s) => (.error error, s) := by
  simp only [bind, ExceptT.bind, ExceptT.mk, ExceptT.run, StateT.bind, ExceptT.bindCont]
  cases p s with
  | mk result s => cases result <;> rfl

/-! ### What each statement does -/

section Statements

variable (e : Engine σ) (log : List Effect)

theorem run_engine : (engine (σ := σ)).run (e, log) = (.ok e, (e, log)) := rfl

theorem run_changeLane (c : ScanClass) (f : Lane → Lane) :
    (changeLane c f : Admission σ Unit).run (e, log) =
      (.ok (), ({ e with lanes := e.lanes.set c (f (e.lanes.get c)) }, log)) := rfl

theorem run_effect (fx : Effect) :
    (effect fx : Admission σ Unit).run (e, log) = (.ok (), (e, log ++ [fx])) := rfl

theorem run_refuse (error? : Option ScanError) :
    (refuse error? : Admission σ Unit).run (e, log) = (error?.elim (.ok ()) .error, (e, log)) := by
  cases error? <;> rfl

theorem run_given {α : Type} (fault : RequestFault) (a? : Option α) :
    (given fault a? : Admission σ α).run (e, log) =
      (a?.elim (.error (.invalidRequest fault)) .ok, (e, log)) := by
  cases a? <;> rfl

theorem run_makeRequest (now : UInt64) (c : ScanClass) (settings : ScanSettings)
    (handler : Handler) :
    (makeRequest now c settings handler).run (e, log) =
      let r := e.makeRequest now c settings handler
      (.ok r,
        ({ e with lanes := e.lanes.set c { e.lanes.get c with epoch := r.epoch } }, log)) := by
  simp only [makeRequest, run_bind, run_engine, run_changeLane, PerClass.get_set_self,
    ExceptT.run_pure]
  rfl

variable [ScanDriver σ]

theorem run_command (r : Request) :
    (command r).run (e, log) =
      let out := ScanDriver.command e.driver r.scanClass r.scanFrequencies
        r.settings.hiddenNetworkIds
      (.ok out.1, ({ e with driver := out.2 }, log ++
        [.command r.scanClass r.scanFrequencies r.settings.hiddenNetworkIds out.1])) := rfl

/-- A request that is made and launched in place is launched by the engine. -/
theorem run_launch (now : UInt64) (c : ScanClass) (settings : ScanSettings) (handler : Handler) :
    (makeRequest now c settings handler >>= launch).run (e, log) =
      let out := e.launch (e.makeRequest now c settings handler)
      (.ok (), (out.1, log ++ out.2)) := by
  rw [run_bind, run_makeRequest]
  generalize made : e.makeRequest now c settings handler = r
  have own : r.scanClass = c := by rw [← made]; rfl
  subst own
  -- The request has its number by now, so the driver is asked for the same either way.
  simp only [launch, Engine.launch, run_bind, run_command]
  cases taken : (ScanDriver.command e.driver r.scanClass r.scanFrequencies
    r.settings.hiddenNetworkIds).1 with
  | true =>
    -- The lane is changed twice, first its number and then its request.
    simp only [if_true, run_bind, run_engine, run_effect, run_changeLane, PerClass.set_set,
      PerClass.get_set_self, List.append_assoc]
    rfl
  | false =>
    simp only [Bool.false_eq_true, if_false, run_effect, List.append_assoc]
    rfl

end Statements

end Admission

/-- A start in place comes to what the engine's start returns, and an error to nothing. -/
theorem Admission.run_start [ScanDriver σ] (e : Engine σ) (log : List Effect) (now : UInt64)
    (c : ScanClass) (settings : Option ScanSettings) (handler : Option Handler) :
    (start now c settings handler).run (e, log) =
      match e.start now c settings handler with
      | .error error => (.error error, (e, log))
      | .ok (e', effects) => (.ok (), (e', log ++ effects)) := by
  rw [Engine.start_eq]
  -- The checks are made one after another, and the first that fails leaves everything unchanged.
  cases settings with
  | none => rfl
  | some s =>
    cases handler with
    | none => rfl
    | some h =>
      cases fault : s.fault? with
      | some fault =>
        simp only [start, run_bind, run_given, run_refuse, fault, Option.elim_some,
          Option.map_some]
      | none =>
        simp only [start, run_bind, run_given, run_refuse, run_engine, fault, Option.elim_some,
          Option.elim_none, Option.map_none]
        cases e.isScanning c with
        | true => rfl
        | false =>
          have launched := run_launch e log now c s h
          rw [run_bind] at launched
          exact launched

/-! ### What a start comes to -/

namespace Engine

/-- How a start of a class is answered: by the first thing that stands in its way. -/
inductive Answered (e : Engine σ) (c : ScanClass) :
    Option ScanSettings → Option Handler → Except ScanError Unit → Prop where
  | noSettings {handler : Option Handler} :
      Answered e c none handler (.error (.invalidRequest .missingSettings))
  | noHandler {s : ScanSettings} :
      Answered e c (some s) none (.error (.invalidRequest .missingHandler))
  | faulty {s : ScanSettings} {h : Handler} {fault : RequestFault} (first : s.FirstFault fault) :
      Answered e c (some s) (some h) (.error (.invalidRequest fault))
  | busy {s : ScanSettings} {h : Handler} {r : Request} (sound : s.Faultless)
      (flight : e.inFlight? c = some r) : Answered e c (some s) (some h) (.error (.busy c))
  | admitted {s : ScanSettings} {h : Handler} (sound : s.Faultless) (idle : e.inFlight? c = none) :
      Answered e c (some s) (some h) (.ok ())

variable [ScanDriver σ]

/-- A request has been given to the driver, which was asked once, and nothing else has happened to
the engine than what follows from the driver's answer. -/
structure Launched (e : Engine σ) (r : Request) (e' : Engine σ) (effects : List Effect) : Prop where
  config : e'.config = e.config
  driver : e'.driver = (ScanDriver.command e.driver r.scanClass r.scanFrequencies
    r.settings.hiddenNetworkIds).2
  others : ∀ d, d ≠ r.scanClass → e'.lanes.get d = e.lanes.get d
  epoch : (e'.lanes.get r.scanClass).epoch = (e.lanes.get r.scanClass).epoch + 1
  latest : e'.latest r.scanClass = e.latest r.scanClass
  /-- The request is in flight if the driver has taken it, and else it has failed without a
  timer. -/
  verdict :
    let accepted := (ScanDriver.command e.driver r.scanClass r.scanFrequencies
      r.settings.hiddenNetworkIds).1
    let command :=
      Effect.command r.scanClass r.scanFrequencies r.settings.hiddenNetworkIds accepted
    accepted = true ∧ e'.inFlight? r.scanClass = some r ∧
        effects = [command, .arm r.tag e.config.scanTimeoutMs] ∨
      accepted = false ∧ e'.inFlight? r.scanClass = none ∧
        effects = [command, .finish r.tag r.handler (.failed .driverRejected)]

theorem launched_makeRequest (e : Engine σ) (now : UInt64) {c : ScanClass} (s : ScanSettings)
    (h : Handler) (idle : e.inFlight? c = none) :
    let r := e.makeRequest now c s h
    e.Launched r (e.launch r).1 (e.launch r).2 := by
  have next : (e.makeRequest now c s h).epoch = (e.lanes.get c).epoch + 1 := rfl
  generalize made : e.makeRequest now c s h = r at next
  have own : r.scanClass = c := by rw [← made]; rfl
  subst own
  have others (d : ScanClass) (other : d ≠ r.scanClass) := e.launch_lanes_of_ne r other
  -- The lane gets the new epoch in any case, but the request only if the driver takes the command.
  cases taken : (ScanDriver.command e.driver r.scanClass r.scanFrequencies
    r.settings.hiddenNetworkIds).1 with
  | true =>
    simp only [launch, taken, if_true] at others ⊢
    refine ⟨rfl, rfl, others, ?_, ?_, ?_⟩
    · rw [PerClass.get_set_self]
      exact next
    · simp only [Engine.latest, PerClass.get_set_self]
    · simp only [taken, inFlight?, PerClass.get_set_self]
      exact Or.inl ⟨trivial, trivial, trivial⟩
  | false =>
    simp only [launch, taken, Bool.false_eq_true, if_false] at others ⊢
    refine ⟨rfl, rfl, others, ?_, ?_, ?_⟩
    · rw [PerClass.get_set_self]
      exact next
    · simp only [Engine.latest, PerClass.get_set_self]
    · simp only [taken, inFlight?, PerClass.get_set_self]
      exact Or.inr ⟨trivial, idle, trivial⟩

theorem answered_iff {e : Engine σ} {c : ScanClass} {settings : Option ScanSettings}
    {handler : Option Handler} {answer : Except ScanError Unit} (now : UInt64) :
    e.Answered c settings handler answer ↔
      answer = (e.start now c settings handler).map fun _ => () := by
  constructor
  · intro answered
    rw [start_eq]
    cases answered with
    | noSettings => rfl
    | noHandler => rfl
    | faulty first =>
      simp only [ScanSettings.fault?_eq_some_iff.2 first]
      rfl
    | busy sound flight =>
      simp only [ScanSettings.fault?_eq_none_iff.2 sound, isScanning, flight, Option.isSome_some,
        if_true]
      rfl
    | admitted sound idle =>
      simp only [ScanSettings.fault?_eq_none_iff.2 sound, isScanning, idle, Option.isSome_none,
        Bool.false_eq_true, if_false]
      rfl
  · -- The checks are made in the order in which the errors take precedence.
    rintro rfl
    rw [start_eq]
    cases settings with
    | none => exact .noSettings
    | some s =>
      cases handler with
      | none => exact .noHandler
      | some h =>
        cases found : s.fault? with
        | some fault =>
          simp only [found]
          exact .faulty (ScanSettings.fault?_eq_some_iff.1 found)
        | none =>
          have sound := ScanSettings.fault?_eq_none_iff.1 found
          cases flight : e.inFlight? c with
          | some r =>
            simp only [found, isScanning, flight, Option.isSome_some, if_true]
            exact .busy sound flight
          | none =>
            simp only [found, isScanning, flight, Option.isSome_none, Bool.false_eq_true, if_false]
            exact .admitted sound flight

/-- What a start comes to: the answer, the engine afterwards, and what was done. -/
structure StartSettled (e : Engine σ) (now : UInt64) (c : ScanClass)
    (settings : Option ScanSettings) (handler : Option Handler) (answer : Except ScanError Unit)
    (e' : Engine σ) (effects : List Effect) : Prop where
  answered : ∀ a, e.Answered c settings handler a ↔ a = answer
  refused : ∀ error, answer = .error error → e' = e ∧ effects = []
  admitted : answer = .ok () → e.inFlight? c = none ∧
    ∃ s h, settings = some s ∧ handler = some h ∧
      e.Launched (e.makeRequest now c s h) e' effects

theorem startSettled (e : Engine σ) (now : UInt64) (c : ScanClass)
    (settings : Option ScanSettings) (handler : Option Handler) :
    let out := e.perform ⟨now, .start c settings handler⟩
    e.StartSettled now c settings handler out.2.answer out.1 out.2.effects := by
  simp only [perform]
  cases started : e.start now c settings handler with
  | error error =>
    refine ⟨fun a => ?_, fun _ _ => ⟨rfl, rfl⟩, ?_⟩
    · rw [answered_iff now, started]
      rfl
    · intro ok
      cases ok
  | ok out =>
    -- An admitted start has launched its request.
    obtain ⟨s, h, rfl, rfl, -, idle, rfl⟩ := (start_eq_ok_iff ..).1 started
    refine ⟨fun a => ?_, ?_, fun _ =>
      ⟨idle, s, h, rfl, rfl, e.launched_makeRequest now s h idle⟩⟩
    · rw [answered_iff now, started]
      rfl
    · intro error failed
      cases failed

end Engine

/-- Whatever the state of an engine, its start is answered by the first thing that stands in its
way; an error leaves everything as it was, also in a start that changes the engine in place; and an
admitted request has been given to the driver, and is in flight exactly if the driver has taken
it. -/
theorem start_settled [ScanDriver σ] (e : Engine σ) (log : List Effect) (now : UInt64)
    (c : ScanClass) (settings : Option ScanSettings) (handler : Option Handler) :
    ∃ answer e' effects,
      (Admission.start now c settings handler).run (e, log) = (answer, (e', log ++ effects)) ∧
      e.perform ⟨now, .start c settings handler⟩ = (e', ⟨answer, effects⟩) ∧
      e.StartSettled now c settings handler answer e' effects := by
  refine ⟨_, _, _, ?_, rfl, e.startSettled now c settings handler⟩
  rw [Admission.run_start]
  cases e.start now c settings handler with
  | error error => simp only [List.append_nil]
  | ok out => rfl

end WifiScan

import WifiScan.Proofs.Simulation.Regimes

/-!
# The schedule of a radio

A radio on its own: the driver takes scans, the driver may go and the scanner may stop, all at any
moment, and the radio receives the next scan and ends it when its time has come. Time passes only
when the radio has nothing to do, and it does not pass the moment at which a scan is to end.
-/
namespace WifiScan

/-- A scan that the driver took. -/
structure TakenScan where
  time : Nat
  scan : IssuedScan
  deriving DecidableEq

/-- A scan that the radio ended. -/
structure EndedScan where
  time : Nat
  scanClass : ScanClass
  outcome : ScanOutcome
  /-- What the scanner was told of it. -/
  told : Option DriverEvent
  deriving DecidableEq

/-- The moment at which the scanner stopped. -/
structure ScannerStop where
  time : Nat
  /-- How many scans the radio had ended by then. -/
  ended : Nat
  deriving DecidableEq

/-- A radio with the time, and what has happened so far. -/
structure RadioTask where
  time : Nat
  radio : Radio
  taken : List TakenScan
  ended : List EndedScan
  stopped : Option ScannerStop
  /-- When the driver went. -/
  gone : Option Nat
  /-- When the radio stopped for good. -/
  doneAt : Option Nat
  deriving DecidableEq

inductive RadioMove where
  /-- The driver takes a scan. -/
  | take (scan : IssuedScan)
  /-- The driver goes. -/
  | drop
  /-- The scanner stops. -/
  | stop
  /-- The radio receives the next scan, or learns that the driver is gone. -/
  | receive
  /-- The radio ends a scan. -/
  | finish
  | pass (time : Nat)

namespace RadioTask

def initial (config : RadioConfig) : RadioTask := ⟨0, .initial config, [], [], none, none, none⟩

/-- Whether the radio has nothing to do at this moment. -/
def isQuiescent (t : RadioTask) : Bool :=
  t.radio.done ||
    match t.radio.serving with
    | some b => t.time < b.dueAt
    | none => t.radio.waiting.isEmpty && t.gone.isNone

/-- The driver takes a scan and tells the radio. -/
def issue (t : RadioTask) (scan : IssuedScan) : RadioTask :=
  { t with radio := t.radio.enqueue [scan], taken := t.taken ++ [⟨t.time, scan⟩] }

/-- The radio stops for good. -/
def halt (t : RadioTask) : RadioTask := { t with radio := t.radio.stop, doneAt := some t.time }

/-- A scan ends, of which the scanner is told. -/
def record (t : RadioTask) (b : RadioService) (told : Option DriverEvent) : RadioTask :=
  { t with
    radio := t.radio.release
    ended := t.ended ++ [⟨t.time, b.scanClass, b.outcome, told⟩] }

variable [Wait]

/-- Makes a move; what is impossible does not happen. -/
def act (t : RadioTask) : RadioMove → RadioTask
  | .take scan => if t.gone.isNone && !t.radio.done then t.issue scan else t
  | .drop => { t with gone := t.gone.or (some t.time) }
  | .stop => { t with stopped := t.stopped.or (some ⟨t.time, t.ended.length⟩) }
  | .receive =>
    if t.radio.done || t.radio.serving.isSome then t
    else if t.radio.waiting.isEmpty && t.gone.isSome then t.halt
    else { t with radio := t.radio.begin? t.time }
  | .finish =>
    match t.radio.serving with
    | none => t
    | some b =>
      if b.dueAt ≤ t.time then
        match t.radio.report? b with
        | none => t.record b none
        | some event =>
          -- Nobody is left to tell once the scanner has stopped, and the radio ends.
          if t.stopped.isNone then t.record b (some event) else (t.record b none).halt
      else t
  | .pass time =>
    if t.isQuiescent && t.time ≤ time && t.radio.serving.all (time ≤ ·.dueAt) then
      { t with time }
    else t

def play (t : RadioTask) (moves : List RadioMove) : RadioTask := moves.foldl act t

theorem play_append (t : RadioTask) (moves more : List RadioMove) :
    t.play (moves ++ more) = (t.play moves).play more := List.foldl_append

variable {t : RadioTask}

/-- No scan ends before it is due. -/
theorem finish_early (early : ∀ b, t.radio.serving = some b → t.time < b.dueAt) :
    t.act .finish = t := by
  rw [act]
  cases busy : t.radio.serving with
  | none => rfl
  | some b => exact if_neg (Nat.not_le.2 (early b busy))

theorem receive_done (done : t.radio.done = true) : t.act .receive = t := by
  simp only [act, done, Bool.true_or, if_true]

theorem receive_busy {b : RadioService} (busy : t.radio.serving = some b) :
    t.act .receive = t := by
  simp only [act, busy, Option.isSome_some, Bool.or_true, if_true]

section Receive

variable (on : t.radio.done = false) (idle : t.radio.serving = none)

include on idle

/-- The radio waits for more scans. -/
theorem receive_nothing (empty : t.radio.waiting = []) (here : t.gone = none) :
    t.act .receive = t := by
  have same : t.radio.begin? t.time = t.radio := by rw [Radio.begin?, idle, empty]
  have stays : t.gone.isSome = false := by rw [here, Option.isSome_none]
  simp [act, on, idle, stays, same]

/-- The radio learns that the driver is gone. -/
theorem receive_gone (empty : t.radio.waiting = []) {time : Nat} (gone : t.gone = some time) :
    t.act .receive = t.halt := by
  simp [act, on, idle, empty, gone]

/-- The radio starts on the next scan. -/
theorem receive_next {scan : IssuedScan} {rest : List IssuedScan}
    (waits : t.radio.waiting = scan :: rest) :
    t.act .receive = { t with radio := t.radio.begin? t.time } := by
  simp [act, on, idle, waits]

end Receive

section Finish

variable {b : RadioService} (busy : t.radio.serving = some b) (due : b.dueAt ≤ t.time)

include busy due

/-- A scan ends of which there is nothing to tell. -/
theorem finish_silent (silent : t.radio.report? b = none) : t.act .finish = t.record b none := by
  simp only [act, busy, if_pos due, silent]

/-- A scan ends of which the scanner is told. -/
theorem finish_reported {event : DriverEvent} (told : t.radio.report? b = some event)
    (runs : t.stopped.isNone = true) : t.act .finish = t.record b (some event) := by
  simp only [act, busy, if_pos due, told, if_pos runs]

/-- A scan ends of which the scanner should be told, but it has stopped. -/
theorem finish_unheard {event : DriverEvent} (told : t.radio.report? b = some event)
    (stopped : t.stopped.isNone = false) : t.act .finish = (t.record b none).halt := by
  have stopped : ¬t.stopped.isNone = true := Bool.eq_false_iff.1 stopped
  simp only [act, busy, if_pos due, told, if_neg stopped]

end Finish

end RadioTask

/-! ### The schedule -/

/-- The outcome of the `k`-th scan, counted from 0. -/
def RadioConfig.outcome (config : RadioConfig) (k : Nat) : ScanOutcome :=
  config.scriptedOutcomes.getD k config.defaultOutcome

/-- What there is to tell of the `k`-th scan. -/
def RadioConfig.report? (config : RadioConfig) (k : Nat) (c : ScanClass) : Option DriverEvent :=
  match config.outcome k with
  | .complete => some ⟨config.interface, c, .resultsAvailable⟩
  | .fail => some ⟨config.interface, c, .scanFailed⟩
  | .silent => none

/-- There is something to tell of a scan unless its outcome is silence. -/
theorem RadioConfig.report?_eq_none_iff {config : RadioConfig} (k : Nat) (c : ScanClass) :
    config.report? k c = none ↔ config.outcome k = .silent := by
  rw [RadioConfig.report?]
  cases config.outcome k <;> simp

/-- When the `k`-th scan ends, if each lasts for some time from when it was taken or, if that is
later, from the end of the scan before it. -/
def finishAt (length : Nat) (takenAt : Nat → Nat) : Nat → Nat
  | 0 => takenAt 0 + length
  | k + 1 => max (takenAt (k + 1)) (finishAt length takenAt k) + length

section FinishAt

variable {length : Nat} {takenAt : Nat → Nat}

theorem finishAt_congr {takenAt' : Nat → Nat} {k : Nat} (same : ∀ j ≤ k, takenAt j = takenAt' j) :
    finishAt length takenAt k = finishAt length takenAt' k := by
  induction k with
  | zero => rw [finishAt, finishAt, same 0 (Nat.le_refl 0)]
  | succ k ih =>
    rw [finishAt, finishAt, same (k + 1) (Nat.le_refl _),
      ih fun j le => same j (Nat.le_succ_of_le le)]

theorem finishAt_mono {j k : Nat} (le : j ≤ k) :
    finishAt length takenAt j ≤ finishAt length takenAt k := by
  induction le with
  | refl => exact Nat.le_refl _
  | step _ ih =>
    rw [finishAt]
    omega

theorem takenAt_le_finishAt (k : Nat) : takenAt k ≤ finishAt length takenAt k := by
  cases k with
  | zero => exact Nat.le_add_right ..
  | succ k =>
    rw [finishAt]
    omega

/-- A scan that is taken when those before it have ended starts at once. -/
theorem finishAt_of_taken {k : Nat}
    (before : ∀ j < k, finishAt length takenAt j ≤ takenAt k) :
    finishAt length takenAt k = takenAt k + length := by
  cases k with
  | zero => rfl
  | succ k => rw [finishAt, Nat.max_eq_left (before k (Nat.lt_succ_self k))]

/-- A scan that was taken before starts when the scan before it ends. -/
theorem finishAt_of_ended {k : Nat}
    (before : takenAt (k + 1) ≤ finishAt length takenAt k) :
    finishAt length takenAt (k + 1) = finishAt length takenAt k + length := by
  rw [finishAt, Nat.max_eq_right before]

end FinishAt

namespace RadioTask

/-- When the `k`-th scan was taken. -/
def takenAt (t : RadioTask) (k : Nat) : Nat := (t.taken[k]?).elim 0 TakenScan.time

/-- When the `k`-th scan is to end. -/
def dueAt (t : RadioTask) (length k : Nat) : Nat := finishAt length t.takenAt k

/-- Whether the scanner runs when the `k`-th scan ends. -/
def hears (t : RadioTask) (k : Nat) : Bool := t.stopped.all (k < ·.ended)

/-- The `k`-th scan is the first to be told of after the scanner has stopped. -/
def IsLast (t : RadioTask) (config : RadioConfig) (k : Nat) : Prop :=
  ∃ stop, t.stopped = some stop ∧ stop.ended ≤ k ∧ config.outcome k ≠ .silent ∧
    ∀ j, stop.ended ≤ j → j < k → config.outcome j = .silent

/-- When the last scan ended. -/
def lastEnd (t : RadioTask) : Nat := t.ended.getLast?.elim 0 EndedScan.time

/-- The end of the `k`-th scan, as it is scheduled. -/
def scheduled (t : RadioTask) (config : RadioConfig) (length k : Nat) (scan : IssuedScan) :
    EndedScan :=
  ⟨t.dueAt length k, scan.scanClass, config.outcome k,
    if t.hears k then config.report? k scan.scanClass else none⟩

section Issue

variable (t : RadioTask) (scan : IssuedScan)

theorem takenAt_issue_of_lt {k : Nat} (old : k < t.taken.length) :
    (t.issue scan).takenAt k = t.takenAt k := by
  rw [takenAt, takenAt, issue, List.getElem?_append_left old]

theorem takenAt_issue_self : (t.issue scan).takenAt t.taken.length = t.time := by
  rw [takenAt, issue, List.getElem?_concat_length]
  rfl

theorem dueAt_issue_of_lt {length k : Nat} (old : k < t.taken.length) :
    (t.issue scan).dueAt length k = t.dueAt length k :=
  finishAt_congr fun _ le => takenAt_issue_of_lt t scan (Nat.lt_of_le_of_lt le old)

theorem length_taken_issue : (t.issue scan).taken.length = t.taken.length + 1 :=
  List.length_append

end Issue

theorem length_ended_record (t : RadioTask) (b : RadioService) (told : Option DriverEvent) :
    (t.record b told).ended.length = t.ended.length + 1 := List.length_append

/-- What has happened where a scan lasts for some time. -/
structure Logged (config : RadioConfig) (length : Nat) (t : RadioTask) : Prop where
  /-- Scans end in the order in which they were taken, each when it is due and with the outcome that
  the script has for it. The scanner is told of it unless it has stopped. -/
  ended : ∀ k ended, t.ended[k]? = some ended →
    ∃ taken, t.taken[k]? = some taken ∧ ended = t.scheduled config length k taken.scan
  /-- When the scanner stopped, the scans that were due had ended, and no others. -/
  stopped : ∀ stop, t.stopped = some stop → ∀ k < t.taken.length,
    (k < stop.ended → t.dueAt length k ≤ stop.time) ∧
      (stop.ended ≤ k → stop.time ≤ t.dueAt length k)
  /-- The radio has stopped at the end of the scan that it had to tell a stopped scanner of, or as
  soon as the driver was gone and all scans had ended. -/
  doneAt : ∀ time, t.doneAt = some time →
    (∃ k, k + 1 = t.ended.length ∧ t.IsLast config k ∧ time = t.dueAt length k) ∨
      t.ended.length = t.taken.length ∧ ∃ gone, t.gone = some gone ∧ time = max gone t.lastEnd

/-- What a radio does. -/
structure Scheduled (config : RadioConfig) (length : Nat) (t : RadioTask) : Prop
    extends Logged config length t where
  done : t.radio.done = t.doneAt.isSome
  /-- While the radio goes on, all scans that are due have ended. -/
  due : t.isQuiescent = true → t.doneAt = none → ∀ k < t.taken.length,
    k < t.ended.length ↔ t.dueAt length k ≤ t.time
  /-- It goes on as long as there is no reason to stop. -/
  goesOn : t.isQuiescent = true → t.doneAt = none →
    (∀ k < t.ended.length, ¬t.IsLast config k) ∧
      (t.gone = none ∨ t.ended.length < t.taken.length)

end RadioTask

end WifiScan

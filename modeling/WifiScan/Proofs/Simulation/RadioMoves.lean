import WifiScan.Proofs.Simulation.RadioStates

/-!
# What the moves of a radio keep

## Main results

`Sound.play`: all moves keep what holds of a radio. `Sound.scheduled`: so what has happened is what
is scheduled.

## Proof strategy

There is one lemma for each move. A radio that has just ended a scan of which nobody can be told is
not sound before it stops, only consistent, so `Consistent.halt` starts from there.
-/
namespace WifiScan.RadioTask

variable [Wait] {config : RadioConfig} {length : Nat} {t : RadioTask}

namespace Sound

/-- The radio starts on the next scan. -/
theorem start (sound : t.Sound config length) (on : t.doneAt = none)
    (idle : t.radio.serving = none) {scan : IssuedScan} {rest : List IssuedScan}
    (waits : t.radio.waiting = scan :: rest) :
    { t with radio := t.radio.begin? t.time }.Sound config length := by
  -- What waits first is the scan after those that have ended.
  have queue := sound.waiting on
  have script := sound.script
  rw [started_of_idle idle] at queue script
  rw [waits] at queue
  obtain ⟨taken, later, drop, rfl, rfl⟩ := List.map_eq_cons_iff.1 queue.symm
  have at? : t.taken[t.ended.length]? = some taken := by
    rw [← List.head?_drop, drop]
    rfl
  have few : t.ended.length < t.taken.length := (List.getElem?_eq_some_iff.1 at?).1
  have outcome : t.radio.script.headD t.radio.defaultOutcome = config.outcome t.ended.length := by
    rw [script, sound.fallback, List.headD_eq_head?_getD, List.head?_drop, RadioConfig.outcome,
      List.getD_eq_getElem?_getD]
  have due : Wait.finish t.time t.radio.latencyMs = t.dueAt length t.ended.length := by
    rw [sound.next on idle few, sound.lasts]
    rfl
  have begun : t.radio.begin? t.time =
      { t.radio with
        serving := some ⟨taken.scan.scanClass, config.outcome t.ended.length,
          t.dueAt length t.ended.length⟩
        script := t.radio.script.tail
        waiting := later.map (·.scan) } := by
    rw [Radio.begin?, idle, waits, outcome, due]
  rw [begun]
  exact
    { sound with
      script := by
        rw [script, List.tail_drop]
        rfl
      waiting := fun _ => by
        change later.map _ = (t.taken.drop (t.ended.length + 1)).map _
        rw [← List.tail_drop, drop]
        rfl
      bounded := few
      idle := fun done => by
        rw [sound.done, on] at done
        cases done
      busy := by
        rintro _ ⟨⟩
        exact ⟨taken, at?, rfl, sound.ahead on (Nat.le_refl _) few⟩
      next := fun _ idle => by cases idle
      last := fun _ idle => by cases idle }

end Sound

/-- The radio stops when there is a reason to. -/
theorem Consistent.halt (consistent : t.Consistent config length) (idle : t.radio.serving = none)
    (reason : (∃ k, k + 1 = t.ended.length ∧ t.IsLast config k ∧ t.time = t.dueAt length k) ∨
      t.ended.length = t.taken.length ∧
        ∃ gone, t.gone = some gone ∧ t.time = max gone t.lastEnd) :
    t.halt.Sound config length :=
  have script := consistent.script
  { consistent with
    doneAt := by
      rintro _ ⟨⟩
      exact reason
    script := by
      rw [started_of_idle idle] at script
      exact script
    waiting := fun on => by cases on
    bounded := Nat.le_trans (Nat.le_add_right ..) consistent.bounded
    done := rfl
    idle := fun _ => rfl
    busy := fun b busy => by cases busy
    next := fun on => by cases on
    last := fun on => by cases on
    silent := fun on => by cases on }

namespace Sound

theorem all_of_empty (sound : t.Sound config length) (on : t.doneAt = none)
    (idle : t.radio.serving = none) (empty : t.radio.waiting = []) :
    t.ended.length = t.taken.length := by
  have queue := sound.waiting on
  rw [started_of_idle idle, empty] at queue
  have none_left := List.drop_eq_nil_iff.1 (List.map_eq_nil_iff.1 queue.symm)
  exact Nat.le_antisymm sound.ended_le none_left

theorem receive (sound : t.Sound config length) : (t.act .receive).Sound config length := by
  cases on : t.radio.done with
  | true =>
    rw [receive_done on]
    exact sound
  | false =>
    have going := sound.doneAt_eq_none on
    cases serving : t.radio.serving with
    | some b =>
      rw [receive_busy serving]
      exact sound
    | none =>
      cases waits : t.radio.waiting with
      | nil =>
        cases gone : t.gone with
        | none =>
          rw [receive_nothing on serving waits gone]
          exact sound
        | some time =>
          -- Nothing is left to do and nothing will come, so the radio stops.
          have all := sound.all_of_empty going serving waits
          have now := sound.last going serving all time gone
          rw [receive_gone on serving waits gone]
          exact sound.toConsistent.halt serving (Or.inr ⟨all, time, gone, now⟩)
      | cons scan rest =>
        rw [receive_next on serving waits]
        exact sound.start going serving waits

theorem report?_eq (sound : t.Sound config length) {b : RadioService}
    (busy : t.radio.serving = some b) :
    t.radio.report? b = config.report? t.ended.length b.scanClass := by
  obtain ⟨taken, -, b_eq, -⟩ := sound.busy b busy
  have outcome : b.outcome = config.outcome t.ended.length := by rw [b_eq]
  cases which : config.outcome t.ended.length <;>
    simp [Radio.report?, RadioConfig.report?, sound.interface, outcome, which]

/-- Of a scan that ends when it is due, what is scheduled is recorded. -/
theorem entry_eq (sound : t.Sound config length) {b : RadioService}
    (busy : t.radio.serving = some b) (due : b.dueAt ≤ t.time) :
    ∃ taken, t.taken[t.ended.length]? = some taken ∧ t.time = t.dueAt length t.ended.length ∧
      (⟨t.time, b.scanClass, b.outcome, if t.stopped.isNone then t.radio.report? b else none⟩ :
        EndedScan) = t.scheduled config length t.ended.length taken.scan := by
  have told : (if t.stopped.isNone then t.radio.report? b else none) =
      if t.hears t.ended.length then config.report? t.ended.length b.scanClass else none := by
    rw [sound.report?_eq busy]
    cases stopped : t.stopped with
    | none => simp [RadioTask.hears, stopped]
    | some stop => simp [RadioTask.hears, stopped, Nat.not_lt.2 (sound.halted stop stopped).1]
  obtain ⟨taken, at?, b_eq, ahead⟩ := sound.busy b busy
  have now : t.time = t.dueAt length t.ended.length := by
    rw [b_eq] at ahead due
    exact Nat.le_antisymm ahead due
  refine ⟨taken, at?, now, ?_⟩
  rw [scheduled, told, now, b_eq]

/-- A busy radio ends its scan when it is due, and the scanner is told unless it has stopped. -/
theorem record (sound : t.Sound config length) {b : RadioService}
    (busy : t.radio.serving = some b) (due : b.dueAt ≤ t.time) :
    (t.record b (if t.stopped.isNone then t.radio.report? b else none)).Consistent config length ∧
      t.time = t.dueAt length t.ended.length := by
  have on := sound.doneAt_of_busy busy
  obtain ⟨taken, at?, now, entry⟩ := sound.entry_eq busy due
  have few : t.ended.length < t.taken.length := (List.getElem?_eq_some_iff.1 at?).1
  have started : t.started = t.ended.length + 1 := by
    rw [RadioTask.started, busy]
    rfl
  have script := sound.script
  have waiting := sound.waiting on
  rw [started] at script waiting
  rw [RadioTask.record, entry]
  refine ⟨?_, now⟩
  -- What is scheduled for the scan plays no part for the others.
  generalize result : t.scheduled config length t.ended.length taken.scan = entry
  have count : (t.ended ++ [entry]).length = t.ended.length + 1 := List.length_append
  exact
    { sound with
      ended := fun k ended at_k => by
        have soon : k < t.ended.length + 1 := count ▸ (List.getElem?_eq_some_iff.1 at_k).1
        rcases Nat.lt_succ_iff_lt_or_eq.1 soon with old | rfl
        · exact sound.ended k ended ((List.getElem?_append_left old).symm.trans at_k)
        · cases (List.getElem?_concat_length).symm.trans at_k
          exact ⟨taken, at?, result.symm⟩
      doneAt := fun time doneAt => by cases on.symm.trans doneAt
      script := by
        change t.radio.script = config.scriptedOutcomes.drop ((t.ended ++ [entry]).length + 0)
        rw [count, script]
      waiting := fun _ => by
        change t.radio.waiting = (t.taken.drop ((t.ended ++ [entry]).length + 0)).map _
        rw [count, waiting]
      bounded := by
        change (t.ended ++ [entry]).length + 0 ≤ t.taken.length
        rw [count]
        exact few
      idle := fun _ => rfl
      past := fun k ended => by
        have soon : k < t.ended.length + 1 := count ▸ ended
        rcases Nat.lt_succ_iff_lt_or_eq.1 soon with old | rfl
        · exact sound.past k old
        · exact Nat.le_of_eq now.symm
      halted := fun stop stopped => by
        refine ⟨?_, (sound.halted stop stopped).2⟩
        change stop.ended ≤ (t.ended ++ [entry]).length
        rw [count]
        exact Nat.le_succ_of_le (sound.halted stop stopped).1
      busy := fun b busy => by cases busy
      next := fun _ _ waits => by
        change (t.ended ++ [entry]).length < t.taken.length at waits
        change finishAt length t.takenAt (t.ended ++ [entry]).length = t.time + length
        rw [count] at waits ⊢
        rw [finishAt_of_ended, now]
        · rfl
        · exact Nat.le_trans (sound.arrived _ waits) (Nat.le_of_eq now)
      last := fun _ _ _ gone went => by
        have lastEnd : (t.ended ++ [entry]).getLast?.elim 0 EndedScan.time = t.time := by
          rw [List.getLast?_concat, ← result, now]
          rfl
        change t.time = max gone ((t.ended ++ [entry]).getLast?.elim 0 EndedScan.time)
        rw [lastEnd]
        exact (Nat.max_eq_right (sound.left gone went)).symm }

/-- A radio that has nothing to do has stopped, is busy, or has ended all scans and waits for
more. -/
theorem quiescent_cases (sound : t.Sound config length) (quiet : t.isQuiescent = true)
    (on : t.doneAt = none) :
    (∃ b, t.radio.serving = some b ∧ t.time < t.dueAt length t.ended.length) ∨
      t.radio.serving = none ∧ t.ended.length = t.taken.length ∧ t.gone = none := by
  have going : t.radio.done = false := by rw [sound.done, on, Option.isSome_none]
  rw [isQuiescent, going, Bool.false_or] at quiet
  cases serving : t.radio.serving with
  | some b =>
    rw [serving] at quiet
    obtain ⟨_, -, rfl, -⟩ := sound.busy b serving
    exact Or.inl ⟨_, rfl, of_decide_eq_true quiet⟩
  | none =>
    rw [serving] at quiet
    simp only [Bool.and_eq_true, List.isEmpty_iff, Option.isNone_iff_eq_none] at quiet
    exact Or.inr ⟨rfl, sound.all_of_empty on serving quiet.1, quiet.2⟩

theorem pass (sound : t.Sound config length) (time : Nat) :
    (t.act (.pass time)).Sound config length := by
  rw [act]
  split
  next possible =>
    simp only [Bool.and_eq_true, decide_eq_true_eq] at possible
    obtain ⟨⟨quiet, later⟩, before⟩ := possible
    exact
      { sound with
        arrived := fun k taken => Nat.le_trans (sound.arrived k taken) later
        past := fun k ended => Nat.le_trans (sound.past k ended) later
        halted := fun stop stopped =>
          ⟨(sound.halted stop stopped).1, Nat.le_trans (sound.halted stop stopped).2 later⟩
        left := fun gone went => Nat.le_trans (sound.left gone went) later
        busy := fun b busy => by
          obtain ⟨taken, at?, b_eq, -⟩ := sound.busy b busy
          refine ⟨taken, at?, b_eq, ?_⟩
          rw [busy] at before
          exact of_decide_eq_true before
        -- Time passes while the radio is busy, or has nothing to do and nothing to learn.
        next := fun on idle waits => by
          rcases sound.quiescent_cases quiet on with ⟨b, busy, -⟩ | ⟨-, all, -⟩
          · cases busy.symm.trans idle
          · exact absurd waits (Nat.not_lt.2 (Nat.le_of_eq all.symm))
        last := fun on idle _ gone went => by
          rcases sound.quiescent_cases quiet on with ⟨b, busy, -⟩ | ⟨-, -, here⟩
          · cases busy.symm.trans idle
          · cases here.symm.trans went }
  next => exact sound

/-- A radio goes on after a scan of which it has told, or which is silent. -/
theorem record_of_hushed (sound : t.Sound config length) {b : RadioService}
    (busy : t.radio.serving = some b) {told : Option DriverEvent}
    (consistent : (t.record b told).Consistent config length)
    (hushed : t.stopped = none ∨ config.outcome t.ended.length = .silent) :
    (t.record b told).Sound config length :=
  { consistent with
    silent := fun _ stop stopped k ended after => by
      rw [length_ended_record] at ended
      rcases Nat.lt_succ_iff_lt_or_eq.1 ended with old | rfl
      · exact sound.silent (sound.doneAt_of_busy busy) stop stopped k old after
      · rcases hushed with runs | silent
        · cases runs.symm.trans stopped
        · exact silent }

theorem finish (sound : t.Sound config length) : (t.act .finish).Sound config length := by
  by_cases early : ∀ b, t.radio.serving = some b → t.time < b.dueAt
  · rw [finish_early early]
    exact sound
  · simp only [not_forall, Nat.not_lt] at early
    obtain ⟨b, busy, due⟩ := early
    obtain ⟨consistent, now⟩ := sound.record busy due
    have report := sound.report?_eq busy
    cases told : t.radio.report? b with
    | none =>
      have silent := (config.report?_eq_none_iff _ _).1 (report.symm.trans told)
      rw [told, ite_self] at consistent
      rw [finish_silent busy due told]
      exact sound.record_of_hushed busy consistent (Or.inr silent)
    | some event =>
      cases stopped : t.stopped with
      | none =>
        rw [stopped, told] at consistent
        rw [finish_reported busy due told (by rw [stopped]; rfl)]
        exact sound.record_of_hushed busy consistent (Or.inl stopped)
      | some stop =>
        -- The scanner has stopped, and the scan is the first to be told of since.
        rw [stopped] at consistent
        rw [finish_unheard busy due told (by rw [stopped]; rfl)]
        have loud : config.outcome t.ended.length ≠ .silent := fun silent => by
          cases told.symm.trans (report.trans ((config.report?_eq_none_iff _ _).2 silent))
        refine consistent.halt rfl (Or.inl ⟨t.ended.length, ?_, ?_, now⟩)
        · exact (length_ended_record ..).symm
        · refine ⟨stop, stopped, (sound.halted stop stopped).1, loud, fun j after before => ?_⟩
          exact sound.silent (sound.doneAt_of_busy busy) stop stopped j before after

theorem act (sound : t.Sound config length) (move : RadioMove) :
    (t.act move).Sound config length := by
  cases move with
  | take scan =>
    rw [RadioTask.act]
    split
    next possible =>
      simp only [Bool.and_eq_true, Option.isNone_iff_eq_none, Bool.not_eq_true'] at possible
      exact sound.issue scan possible.1 (sound.doneAt_eq_none possible.2)
    next => exact sound
  | drop => exact sound.drop
  | stop => exact sound.stop
  | receive => exact sound.receive
  | finish => exact sound.finish
  | pass time => exact sound.pass time

theorem play (sound : t.Sound config length) (moves : List RadioMove) :
    (t.play moves).Sound config length := by
  induction moves generalizing t with
  | nil => exact sound
  | cons move moves ih => exact ih (sound.act move)

/-- At every moment, what has happened is what is scheduled. -/
theorem scheduled (sound : t.Sound config length) : t.Scheduled config length where
  ended := sound.ended
  stopped := sound.stopped
  doneAt := sound.doneAt
  done := sound.done
  due quiet on k taken := by
    refine ⟨sound.past k, fun past => ?_⟩
    by_contra later
    have later := Nat.not_lt.1 later
    rcases sound.quiescent_cases quiet on with ⟨b, -, ahead⟩ | ⟨-, all, -⟩
    · exact absurd past (Nat.not_le.2 (Nat.lt_of_lt_of_le ahead (finishAt_mono later)))
    · exact absurd taken (Nat.not_lt.2 (all ▸ later))
  goesOn quiet on := by
    constructor
    · rintro k ended ⟨stop, stopped, after, loud, -⟩
      exact loud (sound.silent on stop stopped k ended after)
    · rcases sound.quiescent_cases quiet on with ⟨b, busy, -⟩ | ⟨-, -, here⟩
      · obtain ⟨taken, at?, -⟩ := sound.busy b busy
        exact Or.inr (List.getElem?_eq_some_iff.1 at?).1
      · exact Or.inl here

end Sound

end WifiScan.RadioTask

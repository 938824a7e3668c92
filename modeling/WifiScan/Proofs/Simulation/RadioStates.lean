import WifiScan.Proofs.Simulation.RadioTasks

/-!
# What holds of a radio at every moment

Of the scans that the driver took, the first have ended, the next is the one that the radio is busy
with, if it is busy, and the rest waits (`Consistent`). So the script has been used as far as scans
have started. A scan that has not ended is due no earlier than now, and a free radio with a scan to
start on became free, or was given it, at this very moment (`Consistent.next`). A radio that goes on
has had nothing to tell since the scanner stopped (`Sound.silent`).

It holds of a new radio, and is kept when the driver takes a scan (`Sound.issue`) or goes
(`Sound.drop`) and when the scanner stops (`Sound.stop`).
-/
namespace WifiScan.RadioTask

/-- How many scans the radio has started. -/
def started (t : RadioTask) : Nat := t.ended.length + t.radio.serving.toList.length

theorem started_of_idle {t : RadioTask} (idle : t.radio.serving = none) :
    t.started = t.ended.length := by
  rw [started, idle]
  rfl

variable [Wait]

/-- What holds at every moment, and still when the radio is about to stop. -/
structure Consistent (config : RadioConfig) (length : Nat) (t : RadioTask) : Prop
    extends Logged config length t where
  lasts : length = Wait.length t.radio.latencyMs
  interface : t.radio.interface = config.interface
  fallback : t.radio.defaultOutcome = config.defaultOutcome
  script : t.radio.script = config.scriptedOutcomes.drop t.started
  waiting : t.doneAt = none → t.radio.waiting = (t.taken.drop t.started).map (·.scan)
  bounded : t.started ≤ t.taken.length
  done : t.radio.done = t.doneAt.isSome
  idle : t.radio.done = true → t.radio.serving = none
  /-- Nothing has happened that is yet to happen. -/
  arrived : ∀ k < t.taken.length, t.takenAt k ≤ t.time
  past : ∀ k < t.ended.length, t.dueAt length k ≤ t.time
  halted : ∀ stop, t.stopped = some stop → stop.ended ≤ t.ended.length ∧ stop.time ≤ t.time
  left : ∀ gone, t.gone = some gone → gone ≤ t.time
  /-- A busy radio serves the next scan, until it is due. -/
  busy : ∀ b, t.radio.serving = some b → ∃ taken, t.taken[t.ended.length]? = some taken ∧
    b = ⟨taken.scan.scanClass, config.outcome t.ended.length, t.dueAt length t.ended.length⟩ ∧
      t.time ≤ b.dueAt
  /-- A radio that is not busy could have started on the next scan no earlier than now. -/
  next : t.doneAt = none → t.radio.serving = none → t.ended.length < t.taken.length →
    t.dueAt length t.ended.length = t.time + length
  /-- Nor could it have known before that there is nothing left to do. -/
  last : t.doneAt = none → t.radio.serving = none → t.ended.length = t.taken.length →
    ∀ gone, t.gone = some gone → t.time = max gone t.lastEnd

/-- What holds at every moment. -/
structure Sound (config : RadioConfig) (length : Nat) (t : RadioTask) : Prop
    extends Consistent config length t where
  /-- A radio that goes on has had nothing to tell since the scanner stopped. -/
  silent : t.doneAt = none → ∀ stop, t.stopped = some stop → ∀ k < t.ended.length, stop.ended ≤ k →
    config.outcome k = .silent

variable {config : RadioConfig} {length : Nat} {t : RadioTask}

theorem sound_initial (config : RadioConfig) :
    (initial config).Sound config (Wait.length config.latencyMs) where
  ended k ended at? := by cases at?
  stopped stop halted := by cases halted
  doneAt time halted := by cases halted
  lasts := rfl
  interface := rfl
  fallback := rfl
  script := rfl
  waiting _ := rfl
  bounded := Nat.le_refl _
  done := rfl
  idle _ := rfl
  arrived k taken := by cases taken
  past k ended := by cases ended
  halted stop halted := by cases halted
  left gone went := by cases went
  busy b serving := by cases serving
  next _ _ waits := by cases waits
  last _ _ _ gone went := by cases went
  silent _ stop halted := by cases halted

/-! ### The driver and the scanner -/

namespace Sound

theorem doneAt_eq_none (sound : t.Sound config length) (on : t.radio.done = false) :
    t.doneAt = none := by
  rw [sound.done] at on
  exact Option.not_isSome_iff_eq_none.1 (by rw [on]; decide)

/-- A busy radio goes on. -/
theorem doneAt_of_busy (sound : t.Sound config length) {b : RadioService}
    (busy : t.radio.serving = some b) : t.doneAt = none := by
  apply sound.doneAt_eq_none
  cases done : t.radio.done with
  | false => rfl
  | true => cases busy.symm.trans (sound.idle done)

/-- A scan that has not ended is due no earlier than now. -/
theorem ahead (sound : t.Sound config length) (on : t.doneAt = none) {k : Nat}
    (after : t.ended.length ≤ k) (taken : k < t.taken.length) : t.time ≤ t.dueAt length k := by
  have first : t.time ≤ t.dueAt length t.ended.length := by
    cases serving : t.radio.serving with
    | some b =>
      obtain ⟨_, -, rfl, ahead⟩ := sound.busy b serving
      exact ahead
    | none =>
      rw [sound.next on serving (Nat.lt_of_le_of_lt after taken)]
      exact Nat.le_add_right ..
  exact Nat.le_trans first (finishAt_mono after)

theorem lastEnd_le (sound : t.Sound config length) : t.lastEnd ≤ t.time := by
  unfold lastEnd
  rw [List.getLast?_eq_getElem?]
  cases at? : t.ended[t.ended.length - 1]? with
  | none => exact Nat.zero_le _
  | some ended =>
    obtain ⟨taken, -, rfl⟩ := sound.ended _ _ at?
    exact sound.past _ (List.getElem?_eq_some_iff.1 at?).1

theorem drop (sound : t.Sound config length) : (t.act .drop).Sound config length :=
  { sound with
    doneAt := fun time halted => by
      rcases sound.doneAt time halted with last | ⟨all, gone, went, time_eq⟩
      · exact Or.inl last
      · exact Or.inr ⟨all, gone, by rw [act, went]; rfl, time_eq⟩
    left := fun gone went => by
      cases before : t.gone with
      | none =>
        rw [act, before] at went
        cases went
        exact Nat.le_refl _
      | some earlier =>
        -- The driver went before.
        rw [act, before] at went
        cases went
        exact sound.left _ before
    last := fun on idle all gone went => by
      cases before : t.gone with
      | none =>
        rw [act, before] at went
        cases went
        exact (Nat.max_eq_left sound.lastEnd_le).symm
      | some earlier =>
        rw [act, before] at went
        cases went
        exact sound.last on idle all _ before }

/-- A radio that stopped while the scanner runs has ended all scans. -/
theorem all_ended (sound : t.Sound config length) {time : Nat} (doneAt : t.doneAt = some time)
    (runs : t.stopped = none) : t.ended.length = t.taken.length := by
  rcases sound.doneAt time doneAt with ⟨k, -, ⟨stop, stopped, -⟩, -⟩ | ⟨all, -⟩
  · cases runs.symm.trans stopped
  · exact all

theorem stop (sound : t.Sound config length) : (t.act .stop).Sound config length := by
  cases before : t.stopped with
  | some stop =>
    have same : t.act .stop = t := by
      cases t
      cases before
      rfl
    rw [same]
    exact sound
  | none =>
    have now : t.act .stop = { t with stopped := some ⟨t.time, t.ended.length⟩ } := by
      rw [act, before]
      rfl
    rw [now]
    exact
      { sound with
        ended := fun k ended at? => by
          -- The scanner heard of what has ended.
          have early : k < t.ended.length := (List.getElem?_eq_some_iff.1 at?).1
          obtain ⟨taken, at_k, rfl⟩ := sound.ended k ended at?
          refine ⟨taken, at_k, ?_⟩
          simp only [scheduled, hears, before, Option.all_none, Option.all_some, early]
          rfl
        stopped := by
          rintro _ ⟨⟩ k taken
          refine ⟨sound.past k, fun after => ?_⟩
          cases doneAt : t.doneAt with
          | none => exact sound.ahead doneAt after taken
          | some time =>
            have all := sound.all_ended doneAt before
            exact absurd taken (Nat.not_lt.2 (all ▸ after))
        doneAt := fun time doneAt => by
          rcases sound.doneAt time doneAt with ⟨k, -, ⟨stop, stopped, -⟩, -⟩ | closed
          · cases before.symm.trans stopped
          · exact Or.inr closed
        halted := by
          rintro _ ⟨⟩
          exact ⟨Nat.le_refl _, Nat.le_refl _⟩
        silent := by
          rintro - _ ⟨⟩ k ended after
          exact absurd ended (Nat.not_lt.2 after) }

theorem ended_le (sound : t.Sound config length) : t.ended.length ≤ t.taken.length :=
  Nat.le_trans (Nat.le_add_right ..) sound.bounded

theorem issue (sound : t.Sound config length) (scan : IssuedScan) (here : t.gone = none)
    (on : t.doneAt = none) : (t.issue scan).Sound config length :=
  have few := sound.ended_le
  { sound with
    ended := fun k ended at? => by
      obtain ⟨taken, at_k, rfl⟩ := sound.ended k ended at?
      have old : k < t.taken.length := (List.getElem?_eq_some_iff.1 at_k).1
      refine ⟨taken, (List.getElem?_append_left old).trans at_k, ?_⟩
      rw [scheduled, scheduled, dueAt_issue_of_lt t scan old]
      rfl
    stopped := fun stop stopped k taken => by
      rw [length_taken_issue] at taken
      rcases Nat.lt_succ_iff_lt_or_eq.1 taken with old | rfl
      · rw [dueAt_issue_of_lt t scan old]
        exact sound.stopped stop stopped k old
      · -- What is taken after the scanner has stopped is due later.
        obtain ⟨ended, past⟩ := sound.halted stop stopped
        refine ⟨fun early => absurd early (Nat.not_lt.2 (Nat.le_trans ended few)), fun _ => ?_⟩
        refine Nat.le_trans past (Nat.le_trans ?_ (takenAt_le_finishAt _))
        exact Nat.le_of_eq (takenAt_issue_self t scan).symm
    doneAt := fun time doneAt => by cases on.symm.trans doneAt
    waiting := fun _ => by
      change t.radio.waiting ++ [scan] = ((t.taken ++ [_]).drop t.started).map _
      rw [List.drop_append_of_le_length sound.bounded, List.map_append, sound.waiting on]
      rfl
    bounded := by
      rw [length_taken_issue]
      exact Nat.le_succ_of_le sound.bounded
    arrived := fun k taken => by
      rw [length_taken_issue] at taken
      rcases Nat.lt_succ_iff_lt_or_eq.1 taken with old | rfl
      · rw [takenAt_issue_of_lt t scan old]
        exact sound.arrived k old
      · exact Nat.le_of_eq (takenAt_issue_self t scan)
    past := fun k ended => by
      rw [dueAt_issue_of_lt t scan (Nat.lt_of_lt_of_le ended few)]
      exact sound.past k ended
    busy := fun b serving => by
      obtain ⟨taken, at?, b_eq, ahead⟩ := sound.busy b serving
      have old : t.ended.length < t.taken.length := (List.getElem?_eq_some_iff.1 at?).1
      refine ⟨taken, (List.getElem?_append_left old).trans at?, ?_, ahead⟩
      rw [b_eq]
      exact congrArg _ (dueAt_issue_of_lt t scan old).symm
    next := fun _ idle waits => by
      rw [length_taken_issue] at waits
      rcases Nat.lt_succ_iff_lt_or_eq.1 waits with old | first
      · exact (dueAt_issue_of_lt t scan old).trans (sound.next on idle old)
      · -- The scan is taken when all before it have ended, and is next.
        have first : t.ended.length = t.taken.length := first
        change (t.issue scan).dueAt length t.ended.length = _
        rw [first, dueAt, finishAt_of_taken, takenAt_issue_self]
        · rfl
        · intro k earlier
          rw [takenAt_issue_self]
          have ended : k < t.ended.length := first ▸ earlier
          exact Nat.le_trans (Nat.le_of_eq (dueAt_issue_of_lt t scan earlier)) (sound.past k ended)
    last := fun _ _ _ gone went => by cases here.symm.trans went }

end Sound

end WifiScan.RadioTask

import WifiScan.Proofs.Simulation.RadioMoves

/-!
# Radios go on

Whatever a radio has to do it can do, and then time passes, so no run of moves is stuck
(`Sound.reaches`). Each move of the radio leaves it less to do (`work`). So a driver may take scans
at any moments it likes (`realized`).
-/
namespace WifiScan

namespace RadioTask

variable {config : RadioConfig} {length : Nat} {t : RadioTask}

/-- The same scans are taken, and the driver and the scanner are as they were. -/
structure Same (t t' : RadioTask) : Prop where
  taken : t'.taken = t.taken
  stopped : t'.stopped = t.stopped
  gone : t'.gone = t.gone

theorem Same.trans {t' t'' : RadioTask} (same : t.Same t') (same' : t'.Same t'') : t.Same t'' :=
  ⟨same'.taken.trans same.taken, same'.stopped.trans same.stopped, same'.gone.trans same.gone⟩

variable [Wait]

theorem same_receive (t : RadioTask) : t.Same (t.act .receive) := by
  rw [act]
  split
  · exact ⟨rfl, rfl, rfl⟩
  · split <;> exact ⟨rfl, rfl, rfl⟩

theorem same_pass (t : RadioTask) (time : Nat) : t.Same (t.act (.pass time)) := by
  rw [act]
  split <;> exact ⟨rfl, rfl, rfl⟩

theorem same_finish (t : RadioTask) : t.Same (t.act .finish) := by
  rw [act]
  cases t.radio.serving with
  | none => exact ⟨rfl, rfl, rfl⟩
  | some b =>
    dsimp only
    split
    · cases t.radio.report? b with
      | none => exact ⟨rfl, rfl, rfl⟩
      | some event =>
        dsimp only
        split <;> exact ⟨rfl, rfl, rfl⟩
    · exact ⟨rfl, rfl, rfl⟩

/-- How much the radio has to do. -/
def work (t : RadioTask) : Nat := 2 * t.radio.waiting.length + t.radio.serving.toList.length

/-- A radio that has nothing to do before a time lets it pass. -/
theorem pass_eq {limit : Nat} (quiet : t.isQuiescent = true) (later : t.time ≤ limit)
    (before : ∀ b, t.radio.serving = some b → limit ≤ b.dueAt) :
    t.act (.pass limit) = { t with time := limit } := by
  have fits : t.radio.serving.all (limit ≤ ·.dueAt) = true := by
    cases serving : t.radio.serving with
    | none => rfl
    | some b => exact decide_eq_true (before b serving)
  rw [act, if_pos]
  rw [quiet, fits, decide_eq_true later]
  rfl

/-- Time passes to the end of the scan that the radio is busy with. -/
theorem Sound.reach (sound : t.Sound config length) {b : RadioService}
    (busy : t.radio.serving = some b) : t.act (.pass b.dueAt) = { t with time := b.dueAt } := by
  obtain ⟨_, -, -, ahead⟩ := sound.busy b busy
  rcases Nat.eq_or_lt_of_le ahead with now | ahead
  · -- It has come, and to pass is possible or not, but changes nothing.
    rw [← now, RadioTask.act]
    split <;> rfl
  · refine pass_eq ?_ (Nat.le_of_lt ahead) fun b' busy' => ?_
    · rw [isQuiescent, busy]
      simp [ahead]
    · cases busy.symm.trans busy'
      exact Nat.le_refl _

/-- The radio ends its scan at the moment at which it is due. -/
theorem Sound.play_finish (sound : t.Sound config length) {b : RadioService}
    (busy : t.radio.serving = some b) :
    t.play [.pass b.dueAt, .finish] = { t with time := b.dueAt }.act .finish :=
  congrArg (·.act .finish) (sound.reach busy)

/-- A scan that is due ends, and time does not pass. -/
theorem finish_of_due {b : RadioService} (busy : t.radio.serving = some b)
    (due : b.dueAt ≤ t.time) :
    (t.act .finish).time = t.time ∧ (t.act .finish).work < t.work := by
  have work : t.work = 2 * t.radio.waiting.length + 1 := by
    rw [RadioTask.work, busy]
    rfl
  have released (told : Option DriverEvent) : (t.record b told).work < t.work :=
    work ▸ Nat.lt_succ_self _
  have halted (told : Option DriverEvent) : (t.record b told).halt.work < t.work :=
    work ▸ Nat.succ_pos _
  cases told : t.radio.report? b with
  | none =>
    rw [finish_silent busy due told]
    exact ⟨rfl, released none⟩
  | some event =>
    cases runs : t.stopped.isNone with
    | true =>
      rw [finish_reported busy due told runs]
      exact ⟨rfl, released (some event)⟩
    | false =>
      rw [finish_unheard busy due told runs]
      exact ⟨rfl, halted none⟩

/-- Some moves of the radio lead to a time, with nothing left to do. -/
def Reaches (t : RadioTask) (limit : Nat) : Prop :=
  ∃ moves, t.Same (t.play moves) ∧ (t.play moves).time = limit ∧
    (t.play moves).isQuiescent = true

theorem Reaches.after (moves : List RadioMove) {limit : Nat}
    (reaches : (t.play moves).Reaches limit) (same : t.Same (t.play moves)) : t.Reaches limit := by
  obtain ⟨more, same', rest⟩ := reaches
  refine ⟨moves ++ more, ?_⟩
  rw [play_append]
  exact ⟨same.trans same', rest⟩

/-- A radio that has nothing to do before a time, and nothing then, lets it pass. -/
theorem reaches_of_quiescent {limit : Nat} (quiet : t.isQuiescent = true) (later : t.time ≤ limit)
    (before : ∀ b, t.radio.serving = some b → limit < b.dueAt) : t.Reaches limit := by
  have passed := pass_eq quiet later fun b busy => Nat.le_of_lt (before b busy)
  refine ⟨[.pass limit], same_pass t limit, ?_⟩
  change (t.act (.pass limit)).time = limit ∧ (t.act (.pass limit)).isQuiescent = true
  rw [passed]
  refine ⟨rfl, ?_⟩
  rw [isQuiescent] at quiet ⊢
  cases busy : t.radio.serving with
  | none =>
    rw [busy] at quiet
    exact quiet
  | some b => exact Bool.or_eq_true_iff.2 (Or.inr (decide_eq_true (before b busy)))

theorem reaches_of_done (sound : t.Sound config length) (done : t.radio.done = true) {limit : Nat}
    (later : t.time ≤ limit) : t.Reaches limit := by
  refine reaches_of_quiescent ?_ later fun b busy => by cases (sound.idle done).symm.trans busy
  rw [isQuiescent, done, Bool.true_or]

/-- Time can pass to any moment, by which all has happened that is due. -/
theorem Sound.reaches (sound : t.Sound config length) {limit : Nat} (later : t.time ≤ limit) :
    t.Reaches limit := by
  -- On the work left: whatever the radio does next leaves less.
  induction work : t.work using Nat.strongRecOn generalizing t with
  | ind n ih =>
    subst work
    cases done : t.radio.done with
    | true => exact reaches_of_done sound done later
    | false =>
      cases busy : t.radio.serving with
      | some b =>
        by_cases due : b.dueAt ≤ limit
        · -- The scan ends on the way.
          have ended := finish_of_due (t := { t with time := b.dueAt }) busy (Nat.le_refl _)
          have sound' := sound.play [.pass b.dueAt, .finish]
          rw [sound.play_finish busy] at sound'
          have rest := ih _ ended.2 sound' (ended.1 ▸ due) rfl
          rw [← sound.play_finish busy] at rest
          exact rest.after [.pass b.dueAt, .finish] ((same_pass t _).trans (same_finish _))
        · refine reaches_of_quiescent ?_ later fun b' busy' => ?_
          · rw [isQuiescent, done, busy]
            exact decide_eq_true (Nat.lt_of_le_of_lt later (Nat.lt_of_not_le due))
          · cases busy.symm.trans busy'
            exact Nat.lt_of_not_le due
      | none =>
        cases waits : t.radio.waiting with
        | nil =>
          cases gone : t.gone with
          | none =>
            refine reaches_of_quiescent ?_ later fun b' busy' => by cases busy.symm.trans busy'
            rw [isQuiescent, done, busy, waits, gone]
            rfl
          | some time =>
            have halted := receive_gone done busy waits gone
            have sound' := sound.receive
            rw [halted] at sound'
            have rest := reaches_of_done sound' rfl later
            rw [← halted] at rest
            exact rest.after [.receive] (same_receive t)
        | cons scan rest =>
          have begun : (t.act .receive).time = t.time ∧ (t.act .receive).work < t.work := by
            rw [receive_next done busy waits]
            simp only [RadioTask.work, Radio.begin?, busy, waits, List.length_cons,
              Option.toList_some, Option.toList_none, List.length_nil, true_and]
            omega
          have rest := ih _ begun.2 sound.receive (begun.1 ▸ later) rfl
          exact rest.after [.receive] (same_receive t)

/-- The radio goes on while the scanner runs and the driver is there. -/
theorem Sound.done_eq_false (sound : t.Sound config length) (runs : t.stopped = none)
    (here : t.gone = none) : t.radio.done = false := by
  rw [sound.done]
  cases done : t.doneAt with
  | none => rfl
  | some time =>
    rcases sound.doneAt time done with ⟨_, -, ⟨stop, stopped, -⟩, -⟩ | ⟨-, gone, went, -⟩
    · cases runs.symm.trans stopped
    · cases here.symm.trans went

theorem act_take {scan : IssuedScan} (on : t.radio.done = false) (here : t.gone = none) :
    t.act (.take scan) = t.issue scan := by
  rw [act, here, on]
  rfl

/-- For every order of scans there is a radio that was given them in this order. -/
theorem realized (config : RadioConfig) (arrivals : List TakenScan)
    (inOrder : arrivals.Pairwise (·.time ≤ ·.time)) (limit : Nat)
    (past : ∀ taken ∈ arrivals, taken.time ≤ limit) :
    ∃ moves, let t := (initial config).play moves
      t.taken = arrivals ∧ t.time = limit ∧ t.isQuiescent = true ∧ t.stopped = none ∧
        t.gone = none := by
  induction arrivals using List.reverseRecOn generalizing limit with
  | nil =>
    obtain ⟨moves, same, time, quiet⟩ := (sound_initial config).reaches (Nat.zero_le limit)
    exact ⟨moves, same.taken, time, quiet, same.stopped, same.gone⟩
  | append_singleton arrivals last ih =>
    obtain ⟨before, -, lasts⟩ := List.pairwise_append.1 inOrder
    obtain ⟨moves, taken, time, -, stopped, gone⟩ :=
      ih before last.time fun taken member => lasts taken member last (List.mem_singleton_self _)
    have sound := (sound_initial config).play moves
    -- The last scan is taken when its time has come.
    have take : (initial config).play (moves ++ [.take last.scan]) =
        ((initial config).play moves).issue last.scan := by
      rw [play_append]
      exact act_take (sound.done_eq_false stopped gone) gone
    have late : ((initial config).play moves).time ≤ limit :=
      time ▸ past last (List.mem_append_right _ (List.mem_singleton_self _))
    have sound' := (sound_initial config).play (moves ++ [.take last.scan])
    rw [take] at sound'
    obtain ⟨more, same, reached, quiet⟩ := sound'.reaches late
    refine ⟨moves ++ [.take last.scan] ++ more, ?_⟩
    rw [play_append, take]
    refine ⟨?_, reached, quiet, same.stopped.trans stopped, same.gone.trans gone⟩
    rw [same.taken, issue, taken, time]

end RadioTask

end WifiScan

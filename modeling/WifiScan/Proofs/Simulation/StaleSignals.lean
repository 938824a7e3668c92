import Mathlib.Data.List.Nodup
import WifiScan.Proofs.Simulation.LateReports

/-!
# Stale signals

The engine takes a driver's event for the request in flight of its class, whichever request the
event is about. So an event that comes after its request has timed out ends the next request of the
class. That cannot happen if the radio is fast enough to end two scans before a timer fires, or if
requests time out at once, and else it can.

## Main result

`stale_signals_discarded_iff`: the latencies and timeouts with which every report of the radio ends
the very request that it is about or is discarded.
-/
namespace WifiScan

/-! ### A fast radio -/

namespace Moment

/-- When the first outstanding scan is done, at the latest. -/
def firstDone (latency : Nat) (m : Moment) : Nat :=
  match m.serving with
  | some b => b.dueAt
  | none => m.time + latency

/-- Every outstanding scan is that of a request in flight, and is done before the request's timer
fires. -/
structure Punctual (latency : Nat) (m : Moment) : Prop where
  classes : (m.scans.map TimerTag.scanClass).Nodup
  inTime : ∀ (k : Nat) tag, m.scans[k]? = some tag →
    ∃ deadline, m.timers.get tag.scanClass = some ⟨tag, deadline⟩ ∧
      m.firstDone latency + k * latency ≤ deadline
  busy : ∀ b, m.serving = some b → m.time ≤ b.dueAt ∧ b.dueAt ≤ m.time + latency

namespace Punctual

variable {latency : Nat} {m : Moment}

theorem firstDone_le (punctual : m.Punctual latency) : m.firstDone latency ≤ m.time + latency := by
  unfold firstDone
  split
  next b busy => exact (punctual.busy b busy).2
  next => exact Nat.le_refl _

/-- There is at most one outstanding scan besides that of a class without a request. -/
theorem length_scans_le (punctual : m.Punctual latency) {c : ScanClass}
    (idle : m.timers.get c = none) : m.scans.length ≤ 1 := by
  have elsewhere : ∀ tag ∈ m.scans, tag.scanClass ≠ c := by
    rintro tag member rfl
    obtain ⟨k, at?⟩ := List.mem_iff_getElem?.1 member
    obtain ⟨deadline, armed, -⟩ := punctual.inTime k tag at?
    cases idle.symm.trans armed
  have classes := punctual.classes
  match scans : m.scans with
  | [] => exact Nat.zero_le _
  | [_] => exact Nat.le_refl _
  | a :: b :: rest =>
    -- Three classes would be needed for two scans and the class without one.
    have ha := elsewhere a (by simp [scans])
    have hb := elsewhere b (by simp [scans])
    rw [scans] at classes
    have differ : a.scanClass ≠ b.scanClass := by
      simp only [List.map_cons, List.nodup_cons, List.mem_cons, not_or] at classes
      exact classes.1.1
    exfalso
    generalize a.scanClass = x at ha differ
    generalize b.scanClass = y at hb differ
    cases x <;> cases y <;> cases c <;> simp at ha hb differ

/-- A radio that is never idle while scans are outstanding serves the first of them. -/
theorem serves (punctual : m.Punctual latency) (fed : m.serving = none → m.scans = []) {k : Nat}
    {tag : TimerTag} (at? : m.scans[k]? = some tag) :
    ∃ b deadline, m.serving = some b ∧ m.timers.get tag.scanClass = some ⟨tag, deadline⟩ ∧
      b.dueAt + k * latency ≤ deadline := by
  cases serving : m.serving with
  | none =>
    have none := fed serving
    simp [none] at at?
  | some b =>
    obtain ⟨deadline, armed, done⟩ := punctual.inTime k tag at?
    simp only [firstDone, serving] at done
    exact ⟨b, deadline, rfl, armed, done⟩

/-- When the radio is done with a scan, the others are of other classes, and there is still time for
them. -/
theorem others (punctual : m.Punctual latency) {b : RadioService} {tag : TimerTag}
    {later : List TimerTag} (busy : m.serving = some b) (scans : m.scans = tag :: later) :
    (later.map TimerTag.scanClass).Nodup ∧
      ∀ (k : Nat) other, later[k]? = some other → other.scanClass ≠ tag.scanClass ∧
        ∃ deadline, m.timers.get other.scanClass = some ⟨other, deadline⟩ ∧
          max m.time b.dueAt + latency + k * latency ≤ deadline := by
  have classes := punctual.classes
  rw [scans, List.map_cons, List.nodup_cons] at classes
  refine ⟨classes.2, fun k other at? => ⟨?_, ?_⟩⟩
  · intro same
    exact classes.1 (List.mem_map.2 ⟨other, List.mem_of_getElem? at?, same⟩)
  · -- The scan behind it was done one latency later than it, and is so now.
    obtain ⟨deadline, armed, done⟩ := punctual.inTime (k + 1) other (by simpa [scans] using at?)
    have before := punctual.busy b busy
    refine ⟨deadline, armed, ?_⟩
    simp only [firstDone, busy, Nat.add_mul, Nat.one_mul] at done
    omega

end Punctual

/-- A radio that ends two scans before a request times out is always in time. -/
theorem regime_punctual {latency timeout : Nat} (fast : 2 * latency ≤ timeout) :
    Regime latency timeout (Punctual latency) where
  initial := ⟨List.nodup_nil, fun k tag at? => by simp at at?, fun b busy => by cases busy⟩
  taken m tag punctual idle := by
    have few := punctual.length_scans_le idle
    have elsewhere : ∀ other ∈ m.scans, other.scanClass ≠ tag.scanClass := by
      intro other member same
      obtain ⟨k, at?⟩ := List.mem_iff_getElem?.1 member
      obtain ⟨deadline, armed, -⟩ := punctual.inTime k other at?
      rw [same, idle] at armed
      cases armed
    refine ⟨?_, ?_, punctual.busy⟩
    · rw [List.map_append]
      refine List.nodup_append.2 ⟨punctual.classes, List.nodup_singleton _, ?_⟩
      rintro c old _ new rfl
      obtain ⟨other, member, rfl⟩ := List.mem_map.1 old
      exact elsewhere other member (List.mem_singleton.1 new)
    · intro k other at?
      rcases getElem?_concat_cases at? with old | ⟨rfl, rfl⟩
      · -- The scans before it keep their timers.
        obtain ⟨deadline, armed, done⟩ := punctual.inTime k other old
        refine ⟨deadline, ?_, done⟩
        rw [PerClass.get_set_of_ne _ _ (elsewhere other (List.mem_of_getElem? old))]
        exact armed
      · -- Its own scan is the second at most.
        refine ⟨m.time + timeout, PerClass.get_set_self .., ?_⟩
        have first : m.firstDone latency ≤ m.time + latency := punctual.firstDone_le
        have queue : m.scans.length * latency ≤ 1 * latency := Nat.mul_le_mul_right _ few
        change m.firstDone latency + m.scans.length * latency ≤ m.time + timeout
        omega
  started m c outcome punctual idle _ := by
    refine ⟨punctual.classes, ?_, ?_⟩
    · intro k tag at?
      obtain ⟨deadline, armed, done⟩ := punctual.inTime k tag at?
      refine ⟨deadline, armed, ?_⟩
      simp only [firstDone, idle] at done
      exact done
    · intro b busy
      cases busy
      exact ⟨Nat.le_add_right .., Nat.le_refl _⟩
  expired m c a punctual fed armed first := by
    refine ⟨punctual.classes, ?_, ?_⟩
    · intro k tag at?
      obtain ⟨b, deadline, serving, own, done⟩ := punctual.serves fed at?
      have early := first b serving
      -- A timer that fires now is none of an outstanding scan.
      have other : tag.scanClass ≠ c := by
        rintro rfl
        cases armed.symm.trans own
        exact Nat.not_lt_of_le (Nat.le_trans (Nat.le_add_right ..) done) early
      simp only [firstDone, serving]
      refine ⟨deadline, ?_, done⟩
      rw [Timers.get_disarm, if_neg other]
      exact own
    · intro b busy
      have early := first b busy
      have before := punctual.busy b busy
      simp only
      omega
  own m b tag later a punctual busy scans ticket last armed := by
    obtain ⟨deadline, own, -⟩ := punctual.inTime 0 tag (by simp [scans])
    rw [ticket] at own
    cases armed.symm.trans own
    refine ⟨rfl, ?_⟩
    intro other member
    obtain ⟨k, at?⟩ := List.mem_iff_getElem?.1 member
    exact ((punctual.others busy scans).2 k other at?).1
  ended m b tag later punctual busy scans ticket last := by
    obtain ⟨classes, others⟩ := punctual.others busy scans
    refine ⟨classes, ?_, fun b' busy' => by cases busy'⟩
    intro k other at?
    obtain ⟨differ, deadline, own, done⟩ := others k other at?
    refine ⟨deadline, ?_, done⟩
    rw [Timers.get_disarm, if_neg (ticket ▸ differ)]
    exact own
  silent m b tag later punctual busy scans ticket last := by
    obtain ⟨classes, others⟩ := punctual.others busy scans
    refine ⟨classes, ?_, fun b' busy' => by cases busy'⟩
    intro k other at?
    exact (others k other at?).2
  passed m limit punctual fed forward last := by
    refine ⟨punctual.classes, ?_, ?_⟩
    · intro k tag at?
      obtain ⟨b, deadline, serving, own, done⟩ := punctual.serves fed at?
      simp only [firstDone, serving]
      exact ⟨deadline, own, done⟩
    · intro b busy
      have before := punctual.busy b busy
      have due := last b busy
      simp only
      omega

/-! ### Requests that time out at once -/

/-- Timers are due when they are armed, and the radio is not done yet. -/
structure Immediate (m : Moment) : Prop where
  overdue : ∀ c a, m.timers.get c = some a → a.deadline ≤ m.time
  busy : ∀ b, m.serving = some b → m.time < b.dueAt

/-- Where requests time out at once and scans take time, no scan is done while a request is in
flight. -/
theorem regime_immediate {latency : Nat} (slow : 0 < latency) : Regime latency 0 Immediate where
  initial := by
    constructor
    · intro c a armed
      cases c <;> cases armed
    · intro b busy
      cases busy
  taken m tag immediate _ := by
    refine ⟨?_, immediate.busy⟩
    intro c a armed
    by_cases same : c = tag.scanClass
    · subst same
      rw [PerClass.get_set_self] at armed
      cases armed
      exact Nat.le_refl _
    · rw [PerClass.get_set_of_ne _ _ same] at armed
      exact immediate.overdue c a armed
  started m c outcome immediate _ _ := by
    refine ⟨immediate.overdue, ?_⟩
    intro b busy
    cases busy
    exact Nat.lt_add_of_pos_right slow
  expired m c a immediate _ armed first := by
    have now : max m.time a.deadline = m.time := Nat.max_eq_left (immediate.overdue c a armed)
    constructor
    · intro d other left
      rw [Timers.get_disarm] at left
      split at left
      · cases left
      · simp only [now]
        exact immediate.overdue d other left
    · intro b busy
      simp only [now]
      exact immediate.busy b busy
  own m b tag later a immediate busy _ _ last armed := by
    -- The timer would have fired before.
    have due := immediate.overdue _ a armed
    have done := immediate.busy b busy
    have order := last _ a armed
    omega
  ended m b tag later immediate busy _ _ last := by
    refine ⟨?_, fun b' busy' => by cases busy'⟩
    intro c a armed
    rw [Timers.get_disarm] at armed
    split at armed
    · cases armed
    · have due := immediate.overdue c a armed
      exact Nat.le_trans due (Nat.le_max_left ..)
  silent m b tag later immediate busy _ _ last := by
    refine ⟨?_, fun b' busy' => by cases busy'⟩
    intro c a armed
    exact Nat.le_trans (immediate.overdue c a armed) (Nat.le_max_left ..)
  passed m limit immediate _ forward last :=
    ⟨fun c a armed => Nat.le_trans (immediate.overdue c a armed) forward, last⟩

end Moment

/-! ### Exactly when reports are never stale -/

/-- With a latency and a timeout, every report of the radio ends the very request that it is about
or is discarded, in all histories of all stations, exactly if requests time out at once or the radio
ends two scans before a request times out. -/
theorem stale_signals_discarded_iff (latencyMs timeoutMs : UInt64) :
    (∀ (config : EngineConfig) (driver : VirtualDriver) (radio : RadioConfig)
      (clock : Nat → UInt64) (deeds : List Deed), config.scanTimeoutMs = timeoutMs →
      radio.latencyMs = latencyMs → radio.interface = driver.interface →
      StaleDiscarded ((Station.initial config driver (some radio)).history clock deeds).2) ↔
    timeoutMs = 0 ∨ 2 * Wait.length latencyMs ≤ Wait.length timeoutMs := by
  constructor
  · intro always
    by_contra slow
    rw [not_or, Nat.not_le] at slow
    obtain ⟨nonzero, slow⟩ := slow
    have patient : 0 < Wait.length timeoutMs := by
      have positive : timeoutMs.toNat ≠ 0 := fun zero => nonzero (UInt64.toNat_inj.1 zero)
      exact Nat.lt_min.2 ⟨Nat.pos_of_ne_zero positive, by decide⟩
    have discarded deeds := always { EngineConfig.standard with scanTimeoutMs := timeoutMs }
      (.initial .standard) { RadioConfig.standard with latencyMs } (fun _ => 0) deeds rfl rfl rfl
    -- Whether one scan outlasts the timeout or it takes two, some run goes wrong.
    rcases Nat.lt_or_ge (Wait.length timeoutMs) (Wait.length latencyMs) with behind | first
    · exact Station.late_report _ patient behind (discarded _)
    · exact Station.late_report_behind_another _ (by omega) first slow (discarded _)
  · rintro fast config driver radio clock deeds rfl rfl interface
    have holds {Q : Moment → Prop}
        (regime : Regime (Wait.length radio.latencyMs) (Wait.length config.scanTimeoutMs) Q) :=
      regime.staleDiscarded config driver radio rfl rfl interface clock deeds
    rcases Nat.lt_or_ge (Wait.length config.scanTimeoutMs) (2 * Wait.length radio.latencyMs) with
      slow | fast'
    · -- Requests time out at once, and scans take time.
      have zero : config.scanTimeoutMs = 0 := fast.resolve_right (Nat.not_le_of_lt slow)
      have regime : Regime (Wait.length radio.latencyMs) 0 Moment.Immediate :=
        Moment.regime_immediate (by omega)
      apply holds (Q := Moment.Immediate)
      rw [zero]
      exact regime
    · -- Two scans are done before a request times out.
      exact holds (Moment.regime_punctual fast')

/-- A background scan takes 150 ms and times out after 100 ms. The next one is made at 149 ms, and a
millisecond later the report about the first ends it. -/
theorem late_report_ends_next_request :
    ¬StaleDiscarded ((Station.paced 150 100).history (fun ms => .ofNat (1000 * ms))
      [.start .background, .sleep 149, .start .background, .sleep 1]).2 :=
  Station.late_report _ (by decide) (by decide)

end WifiScan

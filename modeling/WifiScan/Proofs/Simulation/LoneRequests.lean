import WifiScan.Proofs.Simulation.Observations
import WifiScan.Proofs.Simulation.Stations

/-!
# How a lone request ends

A station at which one request was taken and nothing else happens: its timer runs, and the radio is
busy with its scan (`Station.Lone`). Whichever is due first ends the request, the radio if both are
due at once, unless the radio stays silent.

## Proof strategy

Until the timeout two things can fall due, and `Station.EndsBy` says for each state of a lone
request how it ends, from the last state to the first.
-/
namespace WifiScan

theorem Wait.finish_zero [Wait] (ms : UInt64) : Wait.finish 0 ms = Wait.length ms := Nat.zero_add _

/-! ### What handlers are told -/

/-- The first status among some effects. -/
def statusIn (effects : List Effect) : Option ScanStatus :=
  ((effects.filterMap Effect.told?).map Prod.snd).findSome? ScanEvent.status?

theorem statusIn_append (fx more : List Effect) :
    statusIn (fx ++ more) = (statusIn fx).or (statusIn more) := by
  simp only [statusIn, List.filterMap_append, List.map_append, List.findSome?_append]

theorem statusIn_fullReports (r : Request) (discovered : List ScanResult) :
    statusIn (Engine.fullReports r discovered) = none := by
  refine List.findSome?_eq_none_iff.2 fun event member => ?_
  obtain ⟨⟨handler, event⟩, told, rfl⟩ := List.mem_map.1 member
  obtain ⟨effect, reported, own⟩ := List.mem_filterMap.1 told
  obtain ⟨result, bucket, rfl⟩ := Engine.eq_report_of_mem_fullReports reported
  cases own
  rfl

namespace Engine

variable {e : Engine VirtualDriver} {c : ScanClass} {r : Request}

theorem fail_inFlight (flight : e.inFlight? c = some r) (reason : FailureReason) :
    statusIn (e.fail c reason).2 = some .failed ∧ (e.fail c reason).1.latest c = e.latest c := by
  have at? : (e.lanes.get c).inFlight = some r := flight
  simp only [fail, at?, latest, PerClass.get_set_self]
  exact ⟨rfl, trivial⟩

theorem complete_inFlight (flight : e.inFlight? c = some r) (now : UInt64) :
    statusIn (e.complete now c).2 = some .resultsAvailable ∧
      (e.complete now c).1.latest c = ⟨(e.latest c).id + 1, rank r.settings.maxApPerScan.toNat
        ((r.retention e.config).discovered (e.driver.results c now))⟩ := by
  refine ⟨?_, latest_complete flight now⟩
  rw [complete_effects flight, statusIn_append, statusIn_append, statusIn_fullReports]
  rfl

end Engine

namespace Station

/-! ### A lone request -/

variable (clock : Nat → UInt64) {latencyMs timeoutMs : UInt64} {s : Station} {radio : Radio}
  {r : Request} {deadline : Nat} {serving : Option RadioService}

/-- A station with one request in flight, whose timer runs. The radio may be busy with its scan, and
no other scan waits. -/
structure Lone (latencyMs timeoutMs : UInt64) (s : Station) (radio : Radio) (r : Request)
    (deadline : Nat) (serving : Option RadioService) : Prop where
  sound : Sound latencyMs timeoutMs s radio []
  flight : s.scanner.engine.inFlight? r.scanClass = some r
  timers : s.scanner.timers = Timers.idle.set r.scanClass (some ⟨r.tag, deadline⟩)
  serving : radio.serving = serving
  waiting : radio.waiting = []

/-- Without timers and scans nothing is due. -/
theorem Sound.nextDue?_eq_none (sound : Sound latencyMs timeoutMs s radio [])
    (idle : ∀ c, s.scanner.timers.get c = none) (free : radio.serving = none) :
    s.nextDue? = none := by
  cases next : s.nextDue? with
  | none => rfl
  | some due =>
    cases due with
    | timer a =>
      obtain ⟨c, armed⟩ := (nextDue?_timer next).1
      cases (idle c).symm.trans armed
    | radio b =>
      have busy := sound.serving_eq.symm.trans (nextDue?_radio next).1
      cases free.symm.trans busy

namespace Lone

theorem armed (lone : Lone latencyMs timeoutMs s radio r deadline serving) :
    s.scanner.timers.get r.scanClass = some ⟨r.tag, deadline⟩ := by
  rw [lone.timers, PerClass.get_set_self]

theorem nextDue?_eq (lone : Lone latencyMs timeoutMs s radio r deadline serving) :
    s.nextDue? = some (serving.elim (.timer ⟨r.tag, deadline⟩) fun b =>
      if deadline < b.dueAt then .timer ⟨r.tag, deadline⟩ else .radio b) := by
  have next : s.scanner.timers.next? = some ⟨r.tag, deadline⟩ := by
    rw [lone.timers]
    cases r.scanClass <;> rfl
  have busy : s.radio.bind (·.serving) = serving := lone.sound.serving_eq.trans lone.serving
  cases serving <;> simp only [nextDue?, next, busy, Option.elim]

/-- No timer is left without that of the request. -/
theorem disarmed (lone : Lone latencyMs timeoutMs s radio r deadline serving) (c : ScanClass) :
    (s.scanner.timers.disarm r.scanClass).get c = none := by
  rw [lone.timers, Timers.disarm, PerClass.set_set, PerClass.get_set]
  split
  · rfl
  · exact PerClass.get_both ..

theorem nextDue?_radio {b : RadioService}
    (lone : Lone latencyMs timeoutMs s radio r deadline (some b)) (first : b.dueAt ≤ deadline) :
    s.nextDue? = some (.radio b) := by
  rw [lone.nextDue?_eq]
  exact congrArg some (if_neg (Nat.not_lt_of_le first))

end Lone

/-! ### How it ends -/

variable [Wait]

/-- Until a time, a request of a class ends with a status and leaves some data. -/
def EndsBy (s : Station) (limit : Nat) (c : ScanClass) (status : ScanStatus) (data : ScanData) :
    Prop :=
  ∀ fuel, s.load ≤ fuel →
    let (s', log) := elapse clock fuel limit s
    statusIn (log.flatMap Incident.effects) = some status ∧ s'.scanner.engine.latest c = data

/-- What falls due tells a status, and nothing else is due until a time. -/
theorem Sound.endsBy_of_last (sound : Sound latencyMs timeoutMs s radio []) {limit : Nat}
    {due : Due} (next : s.nextDue? = some due) (now : due.time ≤ limit) {c : ScanClass}
    {status : ScanStatus}
    (tells : statusIn (s.fire clock due).2 = some status)
    (later : ∀ due', (s.fire clock due).1.nextDue? = some due' → limit < due'.time) :
    s.EndsBy clock limit c status ((s.fire clock due).1.scanner.engine.latest c) := by
  intro fuel enough
  obtain ⟨fuel', -, elapsed⟩ := sound.elapse_of_due clock next now enough
  rw [elapsed, elapse_of_later clock fuel' later]
  simp only [List.flatMap_cons, Due.effects_incident, statusIn_append, tells, Option.some_or,
    and_self]

/-- What falls due tells no status, and then the request ends. -/
theorem Sound.endsBy_of_silent (sound : Sound latencyMs timeoutMs s radio []) {limit : Nat}
    {due : Due} (next : s.nextDue? = some due) (now : due.time ≤ limit) {c : ScanClass}
    {status : ScanStatus} {data : ScanData} (silent : (s.fire clock due).2 = [])
    (ends : (s.fire clock due).1.EndsBy clock limit c status data) :
    s.EndsBy clock limit c status data := by
  intro fuel enough
  obtain ⟨fuel', enough', elapsed⟩ := sound.elapse_of_due clock next now enough
  rw [elapsed]
  simp only [List.flatMap_cons, Due.effects_incident, silent, List.nil_append]
  exact ends fuel' enough'

theorem feedRadio_latest (s : Station) (c : ScanClass) :
    s.feedRadio.scanner.engine.latest c = s.scanner.engine.latest c := by
  unfold Station.feedRadio
  split
  · rfl
  · split <;> rfl

namespace Lone

/-- The timer fires before the radio is done. -/
theorem timesOut (lone : Lone latencyMs timeoutMs s radio r deadline serving)
    (first : ∀ b, serving = some b → deadline < b.dueAt) :
    s.EndsBy clock deadline r.scanClass .failed (s.scanner.engine.latest r.scanClass) := by
  have next : s.nextDue? = some (.timer ⟨r.tag, deadline⟩) := by
    rw [lone.nextDue?_eq]
    cases serving with
    | none => rfl
    | some b => exact congrArg some (if_pos (first b rfl))
  obtain ⟨sound, -, timers, -, -⟩ := lone.sound.fire_timer clock lone.armed
  have failed := Engine.fail_inFlight lone.flight .timedOut
  have fired : (s.fire clock (.timer ⟨r.tag, deadline⟩)).2 =
        (s.scanner.engine.fail r.scanClass .timedOut).2 ∧
      (s.fire clock (.timer ⟨r.tag, deadline⟩)).1.scanner.engine =
        (s.scanner.engine.fail r.scanClass .timedOut).1 := by
    have own : s.scanner.engine.onTimeout r.tag =
        s.scanner.engine.fail r.scanClass .timedOut := by
      simp [Engine.onTimeout, Request.tag, lone.flight]
    simp only [fire, Scanner.serve, lone.sound.running, if_true, Scanner.after, own, and_self]
  have ends := lone.sound.endsBy_of_last clock next (Nat.le_refl deadline) (c := r.scanClass)
    (fired.1 ▸ failed.1) ?_
  · rw [fired.2, failed.2] at ends
    exact ends
  · -- No timer is left, and the radio takes longer.
    intro due after
    cases due with
    | timer a =>
      obtain ⟨c, left⟩ := (nextDue?_timer after).1
      rw [timers] at left
      cases (lone.disarmed c).symm.trans left
    | radio b =>
      have busy := sound.serving_eq.symm.trans (Station.nextDue?_radio after).1
      exact first b (lone.serving.symm.trans busy)

/-- The radio is free after a scan with none behind it. -/
theorem free {s' : Station} (lone : Lone latencyMs timeoutMs s radio r deadline serving) :
    (fedRadio s' radio.release []).serving = none ∧
      (fedRadio s' radio.release []).waiting = [] := by
  rcases fedRadio_cases s' radio.release [] with ⟨b, busy, -⟩ | ⟨-, -, free⟩ |
    ⟨scan, rest, -, waits, -⟩
  · cases busy
  · exact free
  · cases (lone.waiting ▸ waits : [] ++ [] = scan :: rest)

/-- The radio reports before the timer fires or together with it. -/
theorem reports {b : RadioService} (lone : Lone latencyMs timeoutMs s radio r deadline (some b))
    (first : b.dueAt ≤ deadline) (own : b.scanClass = r.scanClass) {event : DriverEvent}
    (report : radio.report? b = some event) {status : ScanStatus}
    (tells : statusIn
      (s.scanner.engine.onDriverEvent (clock (max s.time b.dueAt)) event).2 = some status) :
    s.EndsBy clock deadline r.scanClass status
      ((s.scanner.engine.onDriverEvent (clock (max s.time b.dueAt)) event).1.latest
        r.scanClass) := by
  have fired := lone.sound.fire_report clock report
  simp only [Scanner.serve, lone.sound.running, if_true, Scanner.after] at fired
  obtain ⟨s', fed, sound, -, -, ends⟩ := lone.sound.fire_radio clock b
  -- A report that finds a request ends it.
  have timers : s'.feedRadio.scanner.timers = s.scanner.timers.disarm r.scanClass := by
    rw [own] at ends
    rcases ends with ⟨silent | idle, -⟩ | ⟨_, _, _, -, timers, -⟩
    · simp only [Radio.report?, silent] at report
      cases report
    · cases lone.armed.symm.trans idle
    · rw [feedRadio_eq sound]
      exact timers
  have quiet : (s.fire clock (.radio b)).1.nextDue? = none := by
    rw [fed]
    exact sound.feedRadio.nextDue?_eq_none (fun c => timers ▸ lone.disarmed c) lone.free.1
  have last := lone.sound.endsBy_of_last clock (lone.nextDue?_radio first) first
    (c := r.scanClass) (by rw [fired]; exact tells) fun due after => by cases quiet.symm.trans after
  rwa [fired, feedRadio_latest] at last

/-- The radio ends the scan in silence, and then the timer fires. -/
theorem staysSilent {b : RadioService}
    (lone : Lone latencyMs timeoutMs s radio r deadline (some b)) (first : b.dueAt ≤ deadline)
    (silent : b.outcome = .silent) :
    s.EndsBy clock deadline r.scanClass .failed (s.scanner.engine.latest r.scanClass) := by
  have fired : s.fire clock (.radio b) =
      (Station.feedRadio { s with time := max s.time b.dueAt, radio := some radio.release },
        []) := by
    simp only [fire, Due.time, lone.sound.radio, Radio.report?, silent]
  have sound := (lone.sound.move (max s.time b.dueAt) s.attached).release
  obtain ⟨radio', left⟩ :
      ∃ radio', Lone latencyMs timeoutMs (s.fire clock (.radio b)).1 radio' r deadline none := by
    rw [fired]
    refine ⟨_, sound.feedRadio, ?_, ?_, lone.free.1, lone.free.2⟩
    · rw [feedRadio_eq sound]
      exact lone.flight
    · rw [feedRadio_eq sound]
      exact lone.timers
  have ends := left.timesOut clock fun b busy => by cases busy
  refine lone.sound.endsBy_of_silent clock (lone.nextDue?_radio first) first
    (congrArg Prod.snd fired) ?_
  rw [fired, feedRadio_latest] at ends
  rw [fired]
  exact ends

/-- The radio reports that the scan is complete. -/
theorem completes {b : RadioService} (lone : Lone latencyMs timeoutMs s radio r deadline (some b))
    (first : b.dueAt ≤ deadline) (own : b.scanClass = r.scanClass)
    (outcome : b.outcome = .complete) :
    s.EndsBy clock deadline r.scanClass .resultsAvailable
      ⟨(s.scanner.engine.latest r.scanClass).id + 1, rank r.settings.maxApPerScan.toNat
        ((r.retention s.scanner.engine.config).discovered
          (s.driver.results r.scanClass (clock (max s.time b.dueAt))))⟩ := by
  have report : radio.report? b = some ⟨radio.interface, r.scanClass, .resultsAvailable⟩ := by
    simp only [Radio.report?, outcome, own]
  have heard : s.scanner.engine.onDriverEvent (clock (max s.time b.dueAt))
      ⟨radio.interface, r.scanClass, .resultsAvailable⟩ =
        s.scanner.engine.complete (clock (max s.time b.dueAt)) r.scanClass :=
    if_pos lone.sound.interface
  have completed := Engine.complete_inFlight lone.flight (clock (max s.time b.dueAt))
  have ends := lone.reports clock first own report (heard ▸ completed.1)
  rw [heard, completed.2] at ends
  exact ends

/-- The radio reports that the scan has failed. -/
theorem fails {b : RadioService} (lone : Lone latencyMs timeoutMs s radio r deadline (some b))
    (first : b.dueAt ≤ deadline) (own : b.scanClass = r.scanClass) (outcome : b.outcome = .fail) :
    s.EndsBy clock deadline r.scanClass .failed (s.scanner.engine.latest r.scanClass) := by
  have report : radio.report? b = some ⟨radio.interface, r.scanClass, .scanFailed⟩ := by
    simp only [Radio.report?, outcome, own]
  have heard : s.scanner.engine.onDriverEvent (clock (max s.time b.dueAt))
      ⟨radio.interface, r.scanClass, .scanFailed⟩ =
        s.scanner.engine.fail r.scanClass .driverFailed := if_pos lone.sound.interface
  have failed := Engine.fail_inFlight lone.flight .driverFailed
  have ends := lone.reports clock first own report (heard ▸ failed.1)
  rw [heard, failed.2] at ends
  exact ends

/-- However the radio ends its scan, the request fails if that is no completion in time. -/
theorem fails_unless {b : RadioService}
    (lone : Lone latencyMs timeoutMs s radio r deadline (some b))
    (own : b.scanClass = r.scanClass) (lost : ¬(b.outcome = .complete ∧ b.dueAt ≤ deadline)) :
    s.EndsBy clock deadline r.scanClass .failed (s.scanner.engine.latest r.scanClass) := by
  -- The radio is heard, whatever it tells, unless the timer fires before.
  by_cases first : b.dueAt ≤ deadline
  · cases outcome : b.outcome with
    | complete => exact absurd ⟨outcome, first⟩ lost
    | fail => exact lone.fails clock first own outcome
    | silent => exact lone.staysSilent clock first outcome
  · apply lone.timesOut clock
    intro b' busy
    cases busy
    exact Nat.lt_of_not_le first

end Lone

/-- A call at the start and a sleep after it are a call whose consequences take their time. -/
theorem call_sleep {cs : List Command} (ms : UInt64) (fresh : s.time = 0)
    (sound : Sound latencyMs timeoutMs
      (Station.feedRadio { s with scanner := (s.scanner.call 0 (clock 0) cs).1 }) radio []) :
    let (scanner, effects, answers) := s.scanner.call 0 (clock 0) cs
    let (s', fx, answers') := s.call clock cs
    let (s'', more) := s'.sleep clock ms
    let fed := { s with scanner }.feedRadio
    let (last, log) := elapse clock fed.load (Wait.length ms) fed
    answers' = answers ∧ fx ++ more = effects ++ log.flatMap Incident.effects ∧
      s''.scanner = last.scanner := by
  obtain ⟨time, before, busy, attached⟩ := s
  subst fresh
  generalize called : before.call 0 (clock 0) cs = out at sound
  obtain ⟨scanner, effects, answers⟩ := out
  have start := (feedRadio_frame ⟨0, scanner, busy, attached⟩).1
  generalize feeds : Station.feedRadio ⟨0, scanner, busy, attached⟩ = fed at sound start
  -- No time passes in the call.
  have still : (elapse clock fed.load 0 fed).1.time = 0 :=
    Nat.le_zero.1 (elapse_time_le clock _ (Nat.le_of_eq start))
  have on := sound.elapse_elapse clock (Nat.le_refl _) (Nat.zero_le (Wait.finish 0 ms))
  simp only [Wait.finish_zero] at on
  simp only [Station.call, settle, sleep, runUntil_eq_elapse, called, feeds, start, still,
    Wait.finish_zero, on, List.flatMap_append, List.append_assoc, and_self]

end Station

end WifiScan

import WifiScan.Proofs.Simulation.RadioShadows
import WifiScan.Proofs.Simulation.Timelines

/-!
# The schedule of a radio

The driver of a station gives its radio the scans of the requests that it takes, and goes when the
scanner stops. So whatever is done to a station, its radio is one that was given what the driver
took (`RadioTask.history_radio`), and keeps its schedule.

## Main results

`radio_schedule`: a radio keeps its schedule (`RadioTask.Scheduled`), which can be asked to serve
any scans at any moments, and the radio of a station is such a radio. `not_radioSchedule_exact`: the
schedule is not one of exact latencies, since no wait is longer than thirty years.
-/
namespace WifiScan

/-! ### Histories -/

namespace RadioTask

variable [Wait] {config : RadioConfig} {length : Nat} {t : RadioTask}
variable {engine : EngineConfig} {driver : VirtualDriver} {depth : UInt64}

/-- The radio learns of what was done, and what is due happens. -/
theorem Sound.settle (sound : t.Sound config length) {s : Station} (time : t.time = s.time)
    (radio : s.radio = some t.radio) {queue : List IssuedScan}
    (subscriber : s.driver.subscriber = some queue) (gone : t.gone = t.stopped.map (·.time))
    (before : t.stopped.isNone = false → s.scanner.running = false ∧ queue = [])
    (clock : Nat → UInt64) :
    let s' := s.feedRadio
    t.Leads (Station.elapse clock s'.load s'.time s').1
      { taken := queue.map (⟨s.time, ·⟩)
        told := Station.reportsUntil clock s'.load s'.time s'
        stopped := if t.stopped.isNone && !s.scanner.running then [s.time] else [] } := by
  obtain ⟨moves, shadows, seen⟩ := sound.feed time radio subscriber gone before
  have elapsed := (sound.play moves).elapse shadows clock s.feedRadio.load s.feedRadio.time
  have leads := elapsed.after moves seen
  rwa [RadioLog.append_eq, List.append_nil, List.append_nil, List.nil_append] at leads

/-- Time passes at a station. -/
theorem Sound.sleep (sound : t.Sound config length) {s : Station} (shadows : t.Shadows s)
    (settled : s.Settled engine driver depth) (clock : Nat → UInt64) (ms : UInt64) :
    t.Leads (s.act clock (.sleep ms)).1 { told := s.reports clock (.sleep ms) } := by
  let limit := Wait.finish s.time ms
  obtain ⟨-, later⟩ := settled.toSteady.elapse clock limit
  have before : (Station.elapse clock s.load limit s).1.time ≤ limit :=
    Station.elapse_time_le clock s.load (Nat.le_add_right ..)
  obtain ⟨moves, shadows', seen⟩ := sound.elapse shadows clock s.load limit
  rw [← shadows'.time] at before
  -- Nothing more is due until the sleep ends.
  obtain ⟨more, passed⟩ := shadows'.pass fun b busy => by
    obtain ⟨due, next, le⟩ := Station.nextDue?_of_serving (shadows'.serving.trans busy)
    exact Nat.lt_of_lt_of_le (later due next) le
  rw [Nat.max_eq_right before] at passed
  refine ⟨moves ++ more, ?_⟩
  rw [play_append, passed]
  refine ⟨⟨rfl, ?_, ?_, ?_, ?_, ?_⟩, seen⟩
  · exact shadows'.radio
  · exact shadows'.read
  · exact shadows'.running
  · exact shadows'.gone
  · exact shadows'.fed

/-- Commands are served at a station. -/
theorem Sound.call (sound : t.Sound config length) {s : Station} (shadows : t.Shadows s)
    (clock : Nat → UInt64) {commands : List Command}
    (callers : ∀ command ∈ commands, command.isCallers = true) :
    let deed := Deed.call commands callers
    t.Leads (s.act clock deed).1
      ⟨s.takings clock deed, s.reports clock deed, s.stops clock deed⟩ := by
  intro deed
  let called : Station := { s with scanner := (s.scanner.call s.time (clock s.time) commands).1 }
  have subscriber := Scanner.subscriber_call shadows.read s.time (clock s.time) commands
  have settle := sound.settle (s := called) shadows.time shadows.radio subscriber shadows.gone
    (fun stopped => by
      have halted := shadows.running.trans stopped
      obtain ⟨same, nothing⟩ :=
        Scanner.call_stopped halted s.time (clock s.time) commands
      exact ⟨(congrArg Scanner.running same).trans halted, congrArg takenIn nothing⟩) clock
  have stops : s.stops clock deed =
      if t.stopped.isNone && !called.scanner.running then [s.time] else [] := by
    rw [Station.stops, shadows.running]
    simp only [deed, Station.act, Station.elapse_running, Station.feedRadio_frame]
    rfl
  rw [stops]
  exact settle

/-- The caller gives up its handle. -/
theorem Sound.detach (sound : t.Sound config length) {s : Station} (shadows : t.Shadows s)
    (clock : Nat → UInt64) :
    t.Leads (s.act clock .detach).1
      ⟨s.takings clock .detach, s.reports clock .detach, s.stops clock .detach⟩ := by
  cases on : t.radio.done with
  | false =>
    -- The radio holds a handle of its own.
    have going : s.radio.any (!·.done) = true := by simp [shadows.radio, on]
    have act : s.act clock .detach = ({ s with attached := false }, []) := if_pos going
    have reports : s.reports clock .detach = [] := if_pos going
    rw [Station.stops_of_same clock (by rw [act]), reports, act]
    exact Shadows.leads ⟨shadows.time, shadows.radio, shadows.read, shadows.running, shadows.gone,
      shadows.fed⟩
  | true =>
    -- The radio has stopped, and so has the scanner before.
    have ended : ¬s.radio.any (!·.done) = true := by simp [shadows.radio, on]
    have stopped := sound.stopped_of_done shadows.gone on
    let left : Station := { s with attached := false, scanner := s.scanner.stop.1 }
    have subscriber : left.driver.subscriber = some [] :=
      (congrArg VirtualDriver.subscriber s.scanner.stop_driver.1).trans shadows.read
    have settle := sound.settle (s := left) shadows.time shadows.radio subscriber shadows.gone
      (fun _ => ⟨s.scanner.stop_running, rfl⟩) clock
    have act : (s.act clock .detach).1 =
        (Station.elapse clock left.feedRadio.load left.feedRadio.time left.feedRadio).1 := by
      simp only [Station.act, if_neg ended]
      rfl
    have reports : s.reports clock .detach =
        Station.reportsUntil clock left.feedRadio.load left.feedRadio.time left.feedRadio :=
      if_neg ended
    have stops : s.stops clock .detach = [] := by
      rw [Station.stops, shadows.running, stopped]
      rfl
    rw [stopped] at settle
    rw [act, reports, stops]
    exact settle

/-- What is done to a station are moves of its radio. -/
theorem Sound.act_station (sound : t.Sound config length) {s : Station} (shadows : t.Shadows s)
    (settled : s.Settled engine driver depth) (clock : Nat → UInt64) (deed : Deed) :
    t.Leads (s.act clock deed).1
      ⟨s.takings clock deed, s.reports clock deed, s.stops clock deed⟩ := by
  cases deed with
  | call commands callers => exact sound.call shadows clock callers
  | change change =>
    rw [Station.stops_of_same clock rfl]
    refine Shadows.leads ⟨shadows.time, shadows.radio, ?_, shadows.running, shadows.gone,
      shadows.fed⟩
    have read := shadows.read
    cases change <;> exact read
  | sleep ms =>
    have same : (s.act clock (.sleep ms)).1.scanner.running = s.scanner.running :=
      Station.elapse_running clock _ _ s
    rw [Station.stops_of_same clock same]
    exact sound.sleep shadows settled clock ms
  | detach => exact sound.detach shadows clock

/-- What is done to a station one thing after another are moves of its radio. -/
theorem Sound.history (sound : t.Sound config length) {s : Station} (shadows : t.Shadows s)
    (settled : s.Settled engine driver depth) (clock : Nat → UInt64) (deeds : List Deed) :
    t.Leads (s.history clock deeds).1 (s.radioLog clock deeds) := by
  induction deeds generalizing t s with
  | nil => exact shadows.leads
  | cons deed deeds ih =>
    obtain ⟨moves, shadows', seen⟩ := sound.act_station shadows settled clock deed
    exact (ih (sound.play moves) shadows' (settled.act clock deed)).after moves seen

/-- After any history of a station, its radio is one that moves lead to. -/
theorem history_radio (clock : Nat → UInt64) (engine : EngineConfig) (driver : VirtualDriver)
    (config : RadioConfig) (deeds : List Deed) :
    let start := Station.initial engine driver (some config)
    ∃ moves, let t := (initial config).play moves
      t.isQuiescent = true ∧ t.Shadows (start.history clock deeds).1 ∧
        t.log = start.radioLog clock deeds := by
  intro start
  have settled : start.Settled engine start.driver 1 :=
    Station.settled_initial engine driver (some config) Nat.one_pos
  obtain ⟨moves, shadows, seen⟩ := (sound_initial config).history
    (shadows_initial engine driver config) settled clock deeds
  refine ⟨moves, shadows.isQuiescent fun b busy => ?_, shadows, seen⟩
  -- Nothing is due at a station between the things that are done to it.
  obtain ⟨due, next, le⟩ := Station.nextDue?_of_serving (shadows.serving.trans busy)
  rw [shadows.time]
  exact Nat.lt_of_lt_of_le ((settled.history clock deeds).later due next) le

end RadioTask

/-! ### The law -/

/-- What a radio does, if a scan lasts for some time that depends on the latency. -/
structure RadioSchedule [Wait] (length : UInt64 → Nat) : Prop where
  /-- Whatever the driver, the scanner and the radio do, the radio keeps its schedule. -/
  scheduled : ∀ (config : RadioConfig) (moves : List RadioMove),
    ((RadioTask.initial config).play moves).Scheduled config (length config.latencyMs)
  /-- However it came about, time goes on, and by any moment the radio has done what it has to. -/
  reaches : ∀ (config : RadioConfig) (moves : List RadioMove) (limit : Nat),
    let t := (RadioTask.initial config).play moves
    t.time ≤ limit → t.Reaches limit
  /-- The driver may take any scans at any moments. -/
  realized : ∀ (config : RadioConfig) (arrivals : List TakenScan) (limit : Nat),
    arrivals.Pairwise (·.time ≤ ·.time) → (∀ taken ∈ arrivals, taken.time ≤ limit) →
      ∃ moves, let t := (RadioTask.initial config).play moves
        t.taken = arrivals ∧ t.time = limit ∧ t.isQuiescent = true ∧ t.stopped = none ∧
          t.gone = none
  /-- The radio of a station is a radio that was given what the driver took. -/
  stations : ∀ (clock : Nat → UInt64) (engine : EngineConfig) (driver : VirtualDriver)
    (config : RadioConfig) (deeds : List Deed),
      let start := Station.initial engine driver (some config)
      ∃ moves, let t := (RadioTask.initial config).play moves
        t.isQuiescent = true ∧ t.Shadows (start.history clock deeds).1 ∧
          t.log = start.radioLog clock deeds
  /-- When the radio of a station ends a scan, the scanner serves its report, if there is one, and
  nothing else happens. -/
  posted : ∀ (clock : Nat → UInt64) (s : Station) (b : RadioService),
    (s.fire clock (.radio b)).2 = (s.report? (.radio b)).elim [] fun event =>
      let now := max s.time b.dueAt
      (s.scanner.serve now (clock now) (.driverEvent event)).2.1

/-- A radio serves scans one after another, each for its latency. -/
theorem radio_schedule [Wait] : RadioSchedule Wait.length where
  scheduled config moves := ((RadioTask.sound_initial config).play moves).scheduled
  reaches config moves _ later := ((RadioTask.sound_initial config).play moves).reaches later
  realized config arrivals limit inOrder past :=
    RadioTask.realized config arrivals inOrder limit past
  stations := RadioTask.history_radio
  posted := Station.effects_fire_radio

/-- Of two scans that are taken together the second starts when the first has ended. -/
example :
    let t := (RadioTask.initial ⟨"wlan0", 50, [.fail, .silent], .complete⟩).play
      [.take ⟨.single, ∅, ∅⟩, .take ⟨.background, ∅, ∅⟩, .receive, .pass 50, .finish, .receive,
        .pass 100, .finish]
    t.ended.map (·.time) = [50, 100] ∧ t.log.told = [(50, ⟨"wlan0", .single, .scanFailed⟩)] := by
  decide

/-- A scan whose latency is longer than thirty years ends after thirty years. -/
theorem not_radioSchedule_exact : ¬RadioSchedule UInt64.toNat := by
  intro law
  let config : RadioConfig := ⟨"wlan0", 18446744073709551615, [], .complete⟩
  let scan : IssuedScan := ⟨.single, .ofList [2412], ∅⟩
  let t := (RadioTask.initial config).play
    [.take scan, .receive, .pass Wait.longestMs, .finish]
  have ended : t.ended[0]? =
      some ⟨Wait.longestMs, .single, .complete, some ⟨"wlan0", .single, .resultsAvailable⟩⟩ := by
    decide +kernel
  obtain ⟨taken, -, schedule⟩ := (law.scheduled config _).ended 0 _ ended
  have due : t.dueAt config.latencyMs.toNat 0 = 18446744073709551615 := by decide +kernel
  have early : Wait.longestMs = t.dueAt config.latencyMs.toNat 0 :=
    congrArg EndedScan.time schedule
  rw [due] at early
  exact absurd early (by decide)

end WifiScan

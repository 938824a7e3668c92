import WifiScan.CommandLine.Program
import WifiScan.Proofs.Scan.Faults
import WifiScan.Proofs.Simulation.Session

/-!
# Runs of the scan command

What decides how the `scan` command ends: few of the settings and arguments (`ScanPlan`), from which
the end can be told without the engine, the timers or the radio (`ScanPlan.verdict`).

## Main result

`scan_run_law`: if the latency and the timeout are waits of different lengths, then a scan is
refused, fails, or prints what it finds, as its plan says, and nothing else has a say in it.

## Proof strategy

The one bucket of the settings has the faults and comes to the frequencies that the plan says
(`fault?_settings`, `resolve_settings`). Then `Configuration.scanOnce_refused` and
`Configuration.scanOnce_admitted` give the verdict (`run_verdict`), and the law is read off it.
-/
namespace WifiScan.CommandLine

/-- All that decides how a scan ends. -/
structure ScanPlan where
  /-- How many results the scan keeps at most. -/
  cap : UInt64
  /-- Explicit frequencies, in place of the band if there are any. -/
  channels : List Frequency
  band : Band
  table : FrequencyTable
  accessPoints : List VirtualAccessPoint
  /-- Whether the driver takes the command. -/
  accepting : Bool
  outcome : ScanOutcome
  latencyMs : UInt64
  timeoutMs : UInt64

/-- What the arguments say, or else the configuration. -/
def ScanArguments.plan (a : ScanArguments) (config : Configuration) : ScanPlan where
  cap := a.maxApPerScan.getD config.scan.maxApPerScan
  channels := a.channels
  band := a.band.getD config.scan.band
  table := config.engine.frequencyTable
  accessPoints := config.driver.accessPoints
  accepting := !a.reject
  outcome := a.outcome.getD (config.radio.scriptedOutcomes.headD config.radio.defaultOutcome)
  latencyMs := a.latencyMs.getD config.radio.latencyMs
  timeoutMs := a.timeoutMs.getD config.engine.scanTimeoutMs

namespace ScanPlan

/-- The scan keeps nothing, or has nothing to scan. -/
def Refused (p : ScanPlan) : Prop := p.cap = 0 ∨ p.channels = [] ∧ p.band = .unspecified

/-- The driver takes the command, and the scan completes before the timeout. -/
def Succeeds (p : ScanPlan) : Prop :=
  p.accepting = true ∧ p.outcome = .complete ∧ p.latencyMs < p.timeoutMs

def frequencies (p : ScanPlan) : FrequencySet :=
  if p.channels = [] then p.table.ofBand p.band else .ofList p.channels

variable [Wait]

/-- The access points at the frequencies of the scan, as they are seen at the end of the latency. -/
def sightings (p : ScanPlan) (clock : Nat → UInt64) : List ScanResult :=
  (p.accessPoints.filter (·.frequency ∈ p.frequencies)).map
    (·.observe (clock (Wait.length p.latencyMs)))

/-- What the scan finds. -/
def data (p : ScanPlan) (clock : Nat → UInt64) : ScanData :=
  ⟨1, rank p.cap.toNat (p.sightings clock)⟩

/-- How the scan ends. The radio goes first if it is done at the moment of the timeout. -/
def verdict (p : ScanPlan) (clock : Nat → UInt64) :
    Except ScanError (Option ScanStatus × ScanData) :=
  if p.cap = 0 then .error (.invalidRequest .zeroCap)
  else if p.channels = [] ∧ p.band = .unspecified then
    .error (.invalidRequest (.bucketWithoutBand 0))
  else if p.accepting ∧ p.outcome = .complete ∧
      Wait.length p.latencyMs ≤ Wait.length p.timeoutMs then
    .ok (some .resultsAvailable, p.data clock)
  else .ok (some .failed, .empty)

end ScanPlan

namespace ScanArguments

variable (a : ScanArguments) (config : Configuration)

theorem bucketChannels_of_none (none : a.channels = []) :
    a.bucketChannels config.scan = .band (a.plan config).band := by
  rw [bucketChannels, none]
  rfl

theorem bucketChannels_of_some (some : a.channels ≠ []) :
    a.bucketChannels config.scan = .channels a.channels :=
  if_neg fun empty => some (List.isEmpty_iff.1 empty)

/-- What is wrong with the request of a scan. -/
theorem fault?_settings :
    (a.settings config.scan).fault? =
      if (a.plan config).cap = 0 then some .zeroCap
      else if (a.plan config).channels = [] ∧ (a.plan config).band = .unspecified then
        some (.bucketWithoutBand 0)
      else none := by
  have cap : (a.settings config.scan).maxApPerScan = (a.plan config).cap := rfl
  rw [ScanSettings.fault?, if_neg (by simp [settings]), cap]
  split
  · rfl
  · -- There is one bucket, which is the first.
    refine List.findSome?_singleton.trans ?_
    change BucketSettings.fault? ⟨config.scan.basePeriodMs, a.reportEvents config.scan,
      a.bucketChannels config.scan⟩ 0 = _
    by_cases none : a.channels = []
    · have channels := a.bucketChannels_of_none config none
      by_cases unspecified : (a.plan config).band = .unspecified
      · rw [if_pos ⟨none, unspecified⟩]
        exact BucketSettings.fault?_eq_some_iff.2 (.band (channels.trans (congrArg _ unspecified)))
      · rw [if_neg fun both => unspecified both.2]
        refine BucketSettings.fault?_eq_none_iff.2 ⟨?_, ?_⟩ <;> simp [channels, unspecified]
    · have channels := a.bucketChannels_of_some config none
      rw [if_neg fun both => none both.1]
      refine BucketSettings.fault?_eq_none_iff.2 ⟨?_, ?_⟩ <;> simp [channels, none]

/-- What the request of a scan comes to. -/
theorem resolve_settings :
    ((a.override config).engine.resolve (a.settings config.scan).buckets).scan =
      (a.plan config).frequencies := by
  rw [ScanPlan.frequencies]
  split
  next none => exact EngineConfig.resolve_band _ (a.bucketChannels_of_none config none)
  next some => exact EngineConfig.resolve_channels _ (a.bucketChannels_of_some config some)

/-- A run ends as its plan says. -/
theorem run_verdict [Wait] (clock : Nat → UInt64)
    (forward : clock 0 ≤ clock (Wait.length (a.plan config).latencyMs)) :
    (a.run clock config).map ScanReport.verdict = (a.plan config).verdict clock := by
  have fault := a.fault?_settings config
  unfold ScanPlan.verdict
  split
  next zero =>
    rw [if_pos zero] at fault
    rw [run, Configuration.scanOnce_refused _ _ _ _ fault]
    rfl
  next positive =>
    rw [if_neg positive] at fault
    split
    next nothing =>
      rw [if_pos nothing] at fault
      rw [run, Configuration.scanOnce_refused _ _ _ _ fault]
      rfl
    next some =>
      rw [if_neg some] at fault
      -- The radio reports on the driver's interface, whatever is configured for it.
      have own : (a.override config).radio.interface = (a.override config).driver.interface := rfl
      have outcome : (a.override config).firstOutcome = (a.plan config).outcome := by
        simp only [Configuration.firstOutcome, override, overrideRadio, plan]
        cases a.outcome <;> rfl
      rw [run, Configuration.scanOnce_admitted _ clock _ _ own forward fault, outcome,
        Configuration.sightings, a.resolve_settings config]
      exact apply_ite Except.ok _ _ _

end ScanArguments

section Lines

variable [Wait] {clock : Nat → UInt64} {config : Configuration} {a : ScanArguments}

theorem scanLines_refused {e : ScanError}
    (verdict : (a.run clock config).map ScanReport.verdict = .error e) :
    scanLines clock config a = .error (.scanRefused a.scanClass e) := by
  cases ran : a.run clock config with
  | error e' =>
    rw [ran] at verdict
    cases verdict
    simp only [scanLines, ran]
  | ok report =>
    rw [ran] at verdict
    cases verdict

theorem scanLines_failed {data : ScanData}
    (verdict : (a.run clock config).map ScanReport.verdict = .ok (some .failed, data)) :
    scanLines clock config a = .error (.scanFailed a.scanClass) := by
  cases ran : a.run clock config with
  | error e =>
    rw [ran] at verdict
    cases verdict
  | ok report =>
    rw [ran] at verdict
    have status : report.status? = some .failed := congrArg Prod.fst (Except.ok.inj verdict)
    simp only [scanLines, ran, status]

theorem scanLines_found {data : ScanData}
    (verdict : (a.run clock config).map ScanReport.verdict = .ok (some .resultsAvailable, data)) :
    ∃ report, a.run clock config = .ok report ∧ report.data = data ∧
      scanLines clock config a = .ok (reportLines a.json report) := by
  cases ran : a.run clock config with
  | error e =>
    rw [ran] at verdict
    cases verdict
  | ok report =>
    rw [ran] at verdict
    have both := Except.ok.inj verdict
    have status : report.status? = some .resultsAvailable := congrArg Prod.fst both
    exact ⟨report, rfl, congrArg Prod.snd both, by simp only [scanLines, ran, status]⟩

end Lines

/-- A run of the `scan` command ends as its plan says. -/
structure ScanRunLaw [Wait] (clock : Nat → UInt64) (config : Configuration) (a : ScanArguments) :
    Prop where
  refused : (∃ e, scanLines clock config a = .error (.scanRefused a.scanClass e)) ↔
    (a.plan config).Refused
  succeeds : ¬(a.plan config).Refused →
    ((∃ lines, scanLines clock config a = .ok lines) ↔ (a.plan config).Succeeds)
  fails : ¬(a.plan config).Refused → ¬(a.plan config).Succeeds →
    scanLines clock config a = .error (.scanFailed a.scanClass)
  /-- What is printed is a report of what the plan says that the scan finds. -/
  data : ∀ lines, scanLines clock config a = .ok lines → ∃ report,
    a.run clock config = .ok report ∧ lines = reportLines a.json report ∧
      report.data = (a.plan config).data clock
  /-- Nothing changes with the class of the scan, its single reports, its hidden networks, where
  results are believed, and the interface that is configured for the radio. -/
  independent : ∀ (background fullResults filterInvalid : Bool) (hidden : List Int32)
    (interface : String) (onlyValid : Bool) (policy : ValidityPolicy),
    let a' := { a with background, fullResults, filterInvalid, hidden }
    let config' := { config with
      engine := { config.engine with
        filterInvalidFrequencies := onlyValid, validityPolicy := policy }
      radio := { config.radio with interface } }
    (a'.run clock config').map ScanReport.verdict = (a.run clock config).map ScanReport.verdict

/-- Of two waits of different lengths, the one that is asked to be shorter is shorter. -/
theorem wait_le_iff [Wait] {first second : UInt64}
    (apart : Wait.length first ≠ Wait.length second) :
    Wait.length first ≤ Wait.length second ↔ first < second := by
  constructor
  · intro shorter
    by_contra later
    have longer := Wait.mono (UInt64.not_lt.1 later)
    exact apart (Nat.le_antisymm shorter longer)
  · intro earlier
    exact Wait.mono (UInt64.le_of_lt earlier)

/-- The three ways in which a run ends. -/
theorem scanLines_cases [Wait] (clock : Nat → UInt64) (forward : ∀ s t, s ≤ t → clock s ≤ clock t)
    (config : Configuration) (a : ScanArguments)
    (apart : Wait.length (a.plan config).latencyMs ≠ Wait.length (a.plan config).timeoutMs) :
    (a.plan config).Refused ∧
        (∃ e, scanLines clock config a = .error (.scanRefused a.scanClass e)) ∨
      ¬(a.plan config).Refused ∧ (a.plan config).Succeeds ∧
        (∃ report, a.run clock config = .ok report ∧ report.data = (a.plan config).data clock ∧
          scanLines clock config a = .ok (reportLines a.json report)) ∨
      ¬(a.plan config).Refused ∧ ¬(a.plan config).Succeeds ∧
        scanLines clock config a = .error (.scanFailed a.scanClass) := by
  have verdict := a.run_verdict config clock (forward 0 _ (Nat.zero_le _))
  unfold ScanPlan.verdict at verdict
  split at verdict
  next zero => exact Or.inl ⟨.inl zero, _, scanLines_refused verdict⟩
  next positive =>
    split at verdict
    next nothing => exact Or.inl ⟨.inr nothing, _, scanLines_refused verdict⟩
    next some =>
      -- Neither fault is there, and waits compare as what is asked for.
      have admitted : ¬(a.plan config).Refused := fun refused => refused.elim positive some
      simp only [wait_le_iff apart] at verdict
      split at verdict
      next succeeds => exact Or.inr (Or.inl ⟨admitted, succeeds, scanLines_found verdict⟩)
      next lost => exact Or.inr (Or.inr ⟨admitted, lost, scanLines_failed verdict⟩)

/-- Whatever the settings and the arguments are, a run ends as its plan says, if the clock does not
go back and the latency and the timeout are waits of different lengths. -/
theorem scan_run_law [Wait] (clock : Nat → UInt64) (forward : ∀ s t, s ≤ t → clock s ≤ clock t)
    (config : Configuration) (a : ScanArguments)
    (apart : Wait.length (a.plan config).latencyMs ≠ Wait.length (a.plan config).timeoutMs) :
    ScanRunLaw clock config a := by
  have ended := scanLines_cases clock forward config a apart
  constructor
  case refused =>
    rcases ended with ⟨refused, e, ended⟩ | ⟨admitted, -, report, -, -, ended⟩ |
      ⟨admitted, -, ended⟩
    · exact ⟨fun _ => refused, fun _ => ⟨e, ended⟩⟩
    · simp [ended, admitted]
    · simp [ended, admitted]
  case succeeds =>
    intro admitted
    rcases ended with ⟨refused, -⟩ | ⟨-, succeeds, report, -, -, ended⟩ | ⟨-, lost, ended⟩
    · exact absurd refused admitted
    · exact ⟨fun _ => succeeds, fun _ => ⟨_, ended⟩⟩
    · simp [ended, lost]
  case fails =>
    intro admitted lost
    rcases ended with ⟨refused, -⟩ | ⟨-, succeeds, -⟩ | ⟨-, -, ended⟩
    · exact absurd refused admitted
    · exact absurd succeeds lost
    · exact ended
  case data =>
    intro lines printed
    rcases ended with ⟨-, e, ended⟩ | ⟨-, -, report, ran, data, ended⟩ | ⟨-, -, ended⟩
    · cases ended.symm.trans printed
    · exact ⟨report, ran, (Except.ok.inj (ended.symm.trans printed)).symm, data⟩
    · cases ended.symm.trans printed
  case independent =>
    intro background fullResults filterInvalid hidden interface onlyValid policy a' config'
    -- The plan reads none of these.
    rw [ScanArguments.run_verdict _ _ clock (forward 0 _ (Nat.zero_le _)),
      ScanArguments.run_verdict _ _ clock (forward 0 _ (Nat.zero_le _))]
    rfl

/-- A clock that goes on once, 50 ms after the start. -/
def steppingClock (t : Nat) : UInt64 := if t < 50 then 100 else 900

/-- A radio that is configured for another interface than the driver's and completes its first scan
only. -/
def unsteadyConfiguration : Configuration :=
  { Configuration.standard with radio := ⟨"wlan1", 200, [.complete, .fail], .silent⟩ }

def hastyArguments : ScanArguments :=
  { ScanArguments.empty with band := some .ghz5, timeoutMs := some 250 }

theorem scan_run_law_unsteady :
    (∀ s t, s ≤ t → steppingClock s ≤ steppingClock t) ∧
      Wait.length (hastyArguments.plan unsteadyConfiguration).latencyMs ≠
        Wait.length (hastyArguments.plan unsteadyConfiguration).timeoutMs ∧
      ScanRunLaw steppingClock unsteadyConfiguration hastyArguments := by
  have forward (s t : Nat) (order : s ≤ t) : steppingClock s ≤ steppingClock t := by
    unfold steppingClock
    by_cases late : t < 50
    · have early : s < 50 := Nat.lt_of_le_of_lt order late
      rw [if_pos late, if_pos early]
      exact UInt64.le_refl _
    · rw [if_neg late]
      split <;> decide
  have apart : Wait.length (hastyArguments.plan unsteadyConfiguration).latencyMs ≠
      Wait.length (hastyArguments.plan unsteadyConfiguration).timeoutMs := by
    decide
  exact ⟨forward, apart,
    scan_run_law steppingClock forward unsteadyConfiguration hastyArguments apart⟩

-- The first outcome counts, and the one access point at 5 GHz is seen when the scan is done.
example : (hastyArguments.run steppingClock unsteadyConfiguration).map ScanReport.data =
    .ok ⟨1, [⟨"HomeNet-5G", "3c:84:6a:01:02:04", -55, 5180, 900, "", []⟩]⟩ := by
  decide +kernel

/-- A timeout that is as long as a wait can be, and a scan that is to take longer. -/
def longArguments : ScanArguments :=
  { ScanArguments.empty with
    timeoutMs := some 946080000000, latencyMs := some 18446744073709551615 }

/-- The two waits end together, and the scan succeeds although its latency is above the timeout. -/
theorem not_scanRunLaw_long :
    (longArguments.plan .standard).latencyMs ≠ (longArguments.plan .standard).timeoutMs ∧
      ¬ScanRunLaw (fun _ => 0) .standard longArguments := by
  refine ⟨by decide, fun law => ?_⟩
  have admitted : ¬(longArguments.plan .standard).Refused := by
    rintro (zero | ⟨-, unspecified⟩)
    · cases zero
    · cases unspecified
  have verdict : (longArguments.run (fun _ => 0) .standard).map ScanReport.verdict =
      .ok (some .resultsAvailable, (longArguments.plan .standard).data fun _ => 0) := by
    rw [ScanArguments.run_verdict _ _ _ (UInt64.le_refl _), ScanPlan.verdict,
      if_neg fun zero => admitted (.inl zero), if_neg fun nothing => admitted (.inr nothing)]
    -- Both waits are as long as a wait can be, and then the radio goes first.
    exact if_pos ⟨rfl, rfl, by decide⟩
  obtain ⟨report, -, -, printed⟩ := scanLines_found verdict
  have early := ((law.succeeds admitted).1 ⟨_, printed⟩).2.2
  exact absurd early (by decide)

end WifiScan.CommandLine

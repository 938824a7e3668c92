import WifiScan.Proofs.Channels.WholeBands
import WifiScan.Proofs.Engine.DriverLog
import WifiScan.Proofs.Format.RoundTrip
import WifiScan.Proofs.Scan.Faults
import WifiScan.Simulation.Driver

/-!
# Frequencies of commands

Settings are checked by themselves, and are turned into a command with the table of a configuration.
A bucket that names the unspecified band or no channels is a fault, since it selects nothing. But
the table may hold no frequency in a sub-band, and a bucket with a band of such sub-bands selects
nothing either, which the check does not see.

## Main result

`commands_name_frequencies_iff`: every command names a frequency, and every bucket of settings
without a fault does, exactly with those tables that hold a frequency in each sub-band. With another
table it depends on the settings: a bucket names a frequency unless all sub-bands of its band are
empty.
-/
namespace WifiScan

theorem AscendingSet.ne_empty_iff {α : Type} [LT α] {s : AscendingSet α} :
    s ≠ ∅ ↔ ∃ a, a ∈ s := by
  constructor
  · intro some
    exact List.exists_mem_of_ne_nil s.toList fun none => some (ext none)
  · rintro ⟨a, member⟩ rfl
    exact not_mem_empty member

/-! ### Buckets -/

/-- Each sub-band of a table holds a frequency. -/
def FrequencyTable.Filled (t : FrequencyTable) : Prop := ∀ sub ∈ t.subBands, sub.2 ≠ ∅

/-- A bucket with a band has a sub-band in which the table holds a frequency. -/
def BucketSettings.Reaches (b : BucketSettings) (t : FrequencyTable) : Prop :=
  ∀ band, b.channels = .band band → ∃ sub ∈ t.subBands, band.includes sub.1 = true ∧ sub.2 ≠ ∅

section Buckets

variable {t : FrequencyTable} {b : BucketSettings}

theorem FrequencyTable.ofBand_ne_empty_iff {band : Band} : t.ofBand band ≠ ∅ ↔
    ∃ sub ∈ t.subBands, band.includes sub.1 = true ∧ sub.2 ≠ ∅ := by
  simp only [AscendingSet.ne_empty_iff, mem_ofBand_iff]
  constructor
  · rintro ⟨f, sub, member, includes, held⟩
    exact ⟨sub, member, includes, f, held⟩
  · rintro ⟨sub, member, includes, f, held⟩
    exact ⟨f, sub, member, includes, held⟩

theorem FrequencyTable.specified_of_mem_subBands {sub : Band × FrequencySet}
    (member : sub ∈ t.subBands) : sub.1 ≠ .unspecified := by
  rcases mem_subBands.1 member with rfl | rfl | rfl <;> nofun

/-- The band of a single sub-band comes to that sub-band. -/
theorem FrequencyTable.ofBand_single {sub : Band × FrequencySet} (member : sub ∈ t.subBands) :
    t.ofBand sub.1 = sub.2 := by
  apply AscendingSet.ext_mem
  intro f
  rcases mem_subBands.1 member with rfl | rfl | rfl <;> simp [ofBand, mem_expand, Band.mask]

/-- A bucket that selects something names a frequency if its band has any. -/
theorem BucketSettings.frequencies_ne_empty_iff (selects : b.Selects) :
    b.frequencies t ≠ ∅ ↔ b.Reaches t := by
  cases own : b.channels with
  | band band =>
    simp only [frequencies, own, FrequencyTable.ofBand_ne_empty_iff, Reaches,
      BucketChannels.band.injEq, forall_eq']
  | channels fs =>
    have some : fs ≠ [] := fun none => selects.2 (own.trans (congrArg _ none))
    obtain ⟨f, member⟩ := List.exists_mem_of_ne_nil fs some
    simp only [frequencies, own, Reaches, reduceCtorEq, false_implies, implies_true, iff_true]
    exact AscendingSet.ne_empty_iff.2 ⟨f, AscendingSet.mem_ofList.2 member⟩

/-- Every band but the unspecified one has a sub-band, in which the table holds a frequency. -/
theorem FrequencyTable.Filled.reaches (filled : t.Filled) (selects : b.Selects) : b.Reaches t := by
  intro band own
  have specified : band ≠ .unspecified := fun none => selects.1 (own.trans (congrArg _ none))
  have includes : ∃ sub ∈ t.subBands, band.includes sub.1 = true := by
    simp only [mem_subBands, or_and_right, exists_or, exists_eq_left]
    cases band with
    | unspecified => exact absurd rfl specified
    | ghz24 | both | bothWithDfs => exact Or.inl rfl
    | ghz5 | ghz5WithDfs => exact Or.inr (Or.inl rfl)
    | ghz5DfsOnly => exact Or.inr (Or.inr rfl)
  obtain ⟨sub, member, includes⟩ := includes
  exact ⟨sub, member, includes, filled sub member⟩

end Buckets

/-! ### Settings -/

namespace EngineConfig

variable {config : EngineConfig} {s : ScanSettings}

theorem scan_ne_empty_iff (sound : s.Faultless) : (config.resolve s.buckets).scan ≠ ∅ ↔
    ∃ b ∈ s.buckets, b.Reaches config.frequencyTable := by
  simp only [AscendingSet.ne_empty_iff, mem_resolve_scan]
  constructor
  · rintro ⟨f, b, member, named⟩
    exact ⟨b, member, (b.frequencies_ne_empty_iff (sound.selects b member)).1
      (AscendingSet.ne_empty_iff.2 ⟨f, named⟩)⟩
  · rintro ⟨b, member, reaches⟩
    obtain ⟨f, named⟩ := AscendingSet.ne_empty_iff.1
      ((b.frequencies_ne_empty_iff (sound.selects b member)).2 reaches)
    exact ⟨f, b, member, named⟩

theorem perBucket_ne_empty_iff (sound : s.Faultless) :
    (∀ fs ∈ (config.resolve s.buckets).perBucket, fs ≠ ∅) ↔
      ∀ b ∈ s.buckets, b.Reaches config.frequencyTable := by
  rw [resolve_perBucket]
  simp only [List.mem_map, forall_exists_index, and_imp, forall_apply_eq_imp_iff₂]
  exact forall₂_congr fun b member => b.frequencies_ne_empty_iff (sound.selects b member)

end EngineConfig

/-- Settings for a scan of one band. -/
def ScanSettings.ofBand (band : Band) : ScanSettings :=
  (empty.withMaxApPerScan 32).addBucket ⟨10000, .afterEachScan, .band band⟩

theorem ScanSettings.faultless_ofBand {band : Band} (specified : band ≠ .unspecified) :
    (ofBand band).Faultless where
  buckets := nofun
  cap := show (32 : UInt64) ≠ 0 by decide
  selects b member := by
    cases List.mem_singleton.1 member
    exact ⟨fun none => specified (BucketChannels.band.inj none), nofun⟩

theorem ScanSettings.check_eq_ok_iff {s : ScanSettings} : s.check = .ok () ↔ s.Faultless := by
  rw [← fault?_eq_none_iff, check]
  cases s.fault? <;> simp

/-! ### Commands -/

section Driver

variable {σ : Type} [ScanDriver σ]

/-- An operation makes its request of settings without a fault. -/
theorem Engine.Performs.faultless_of_made {e : Engine σ} {t : Turn σ} {out : Engine σ × Outcome}
    {r : Request} (performs : e.Performs t out) (made : e.made? t out.2 = some r) :
    ∃ s : ScanSettings, s.Faultless ∧ r.scanFrequencies = (e.config.resolve s.buckets).scan := by
  -- Of all that an operation can do, only a launch makes a request.
  cases performs with
  | @launched c s h r' operation sound idle own =>
    simp only [made?, operation, Option.some.injEq] at made
    subst made
    exact ⟨s, ScanSettings.fault?_eq_none_iff.1 sound, rfl⟩
  | completed reported => simp only [made?, reported.operation, reduceCtorEq] at made
  | refused operation | failed operation | timedOut operation | stopped operation
  | unheard operation | late operation | scripted operation =>
    simp only [made?, operation, reduceCtorEq] at made

/-- Every command of a run is that of settings without a fault. -/
theorem Engine.faultless_of_command (e : Engine σ) (ts : List (Turn σ)) {command : ScanCommand}
    (member : command ∈ commandsIn (effectsOf (e.run ts).2)) :
    ∃ s : ScanSettings, s.Faultless ∧ command.2.1 = (e.config.resolve s.buckets).scan := by
  induction ts using List.reverseRecOn with
  | nil => cases member
  | append_singleton ts t ih =>
    rw [run_concat, effectsOf_concat, commandsIn_append,
      ((e.run ts).1.perform_performs t).commandsIn_eq, List.mem_append] at member
    rcases member with before | last
    · exact ih before
    · obtain ⟨r, made, rfl⟩ := List.mem_map.1 last
      rw [Option.mem_toList] at made
      have faultless := ((e.run ts).1.perform_performs t).faultless_of_made made
      rwa [run_config] at faultless

/-- An engine that is started for one band commands a scan of it. -/
theorem Engine.commandsIn_start (config : EngineConfig) (driver : σ) {band : Band}
    (specified : band ≠ .unspecified) :
    commandsIn (effectsOf ((Engine.initial config driver).run
      [⟨0, .start .single (some (.ofBand band)) (some "caller")⟩]).2) =
        [(.single, config.frequencyTable.ofBand band, ∅)] := by
  have sound := ScanSettings.fault?_eq_none_iff.2 (ScanSettings.faultless_ofBand specified)
  have started := start_eq (Engine.initial config driver) 0 .single (some (.ofBand band))
    (some "caller")
  simp only [sound] at started
  have whole : (config.resolve (ScanSettings.ofBand band).buckets).scan =
      config.frequencyTable.ofBand band := config.resolve_band rfl
  rw [commandsIn_run]
  simp only [madeIn, collect, perform, started, ← whole]
  rfl

end Driver

/-- Every command of every run of an engine with a configuration names a frequency. -/
def EngineConfig.CommandsNamed (config : EngineConfig) : Prop :=
  ∀ (σ : Type) [ScanDriver σ] (driver : σ) (ts : List (Turn σ)),
    ∀ command ∈ commandsIn (effectsOf ((Engine.initial config driver).run ts).2), command.2.1 ≠ ∅

/-- Every bucket of settings without a fault names a frequency. -/
def EngineConfig.BucketsNamed (config : EngineConfig) : Prop :=
  ∀ s : ScanSettings, s.check = .ok () → ∀ fs ∈ (config.resolve s.buckets).perBucket, fs ≠ ∅

namespace EngineConfig

variable {config : EngineConfig}

theorem commandsNamed_iff : config.CommandsNamed ↔ config.frequencyTable.Filled := by
  constructor
  · intro named sub member
    -- Started for the band of this sub-band alone, an engine commands a scan of the sub-band.
    have commanded := Engine.commandsIn_start config (VirtualDriver.initial .standard)
      (FrequencyTable.specified_of_mem_subBands member)
    have some := named VirtualDriver (.initial .standard) _ _
      (commanded ▸ List.mem_singleton.2 rfl)
    rwa [FrequencyTable.ofBand_single member] at some
  · intro filled σ _ driver ts command member
    obtain ⟨s, sound, own⟩ := Engine.faultless_of_command _ ts member
    -- The command has the frequencies of all buckets, so that any one of them will do.
    obtain ⟨b, first⟩ := List.exists_mem_of_ne_nil s.buckets sound.buckets
    rw [own]
    exact (scan_ne_empty_iff sound).2 ⟨b, first, filled.reaches (sound.selects b first)⟩

theorem bucketsNamed_iff : config.BucketsNamed ↔ config.frequencyTable.Filled := by
  constructor
  · intro named sub member
    have sound :=
      ScanSettings.faultless_ofBand (FrequencyTable.specified_of_mem_subBands member)
    have some := named _ (ScanSettings.check_eq_ok_iff.2 sound) (config.frequencyTable.ofBand sub.1)
      (by rw [resolve_perBucket]; exact List.mem_singleton.2 rfl)
    rwa [FrequencyTable.ofBand_single member] at some
  · intro filled s checked
    have sound := ScanSettings.check_eq_ok_iff.1 checked
    exact (perBucket_ne_empty_iff sound).2 fun b member => filled.reaches (sound.selects b member)

end EngineConfig

/-- Whatever is asked of an engine, its commands name frequencies, and so do the buckets of settings
without a fault, exactly if the table has no empty sub-band. With any table, settings without a
fault come to a command with frequencies exactly if some bucket reaches one, and to buckets with
frequencies exactly if all do. -/
theorem commands_name_frequencies_iff (config : EngineConfig) :
    (config.CommandsNamed ↔ config.frequencyTable.Filled) ∧
      (config.BucketsNamed ↔ config.frequencyTable.Filled) ∧
        ∀ s : ScanSettings, s.check = .ok () →
          ((config.resolve s.buckets).scan ≠ ∅ ↔
            ∃ b ∈ s.buckets, b.Reaches config.frequencyTable) ∧
          ((∀ fs ∈ (config.resolve s.buckets).perBucket, fs ≠ ∅) ↔
            ∀ b ∈ s.buckets, b.Reaches config.frequencyTable) := by
  refine ⟨EngineConfig.commandsNamed_iff, EngineConfig.bucketsNamed_iff, fun s checked => ?_⟩
  have sound := ScanSettings.check_eq_ok_iff.1 checked
  exact ⟨EngineConfig.scan_ne_empty_iff sound, EngineConfig.perBucket_ne_empty_iff sound⟩

/-- A table with a single frequency, of 5 GHz. -/
def FrequencyTable.lone : FrequencyTable :=
  ⟨∅, .ofList [5180], ∅, fun _ _ => AscendingSet.not_mem_empty, nofun⟩

/-- A configuration with this table can be read, and settings for 2.4 GHz pass the check. The engine
gives its driver a command without a frequency. -/
theorem band_without_frequencies_commanded :
    let config := { EngineConfig.standard with frequencyTable := .lone }
    let settings := ScanSettings.ofBand .ghz24
    FrequencyTable.ofLists [] [5180] [] = .ok .lone ∧
      EngineConfig.codec.decode (EngineConfig.codec.encode config) = .ok config ∧
      settings.check = .ok () ∧
      (config.resolve settings.buckets).perBucket = [∅] ∧
      ((Engine.initial config (VirtualDriver.initial .standard)).run
        [⟨0, .start .single (some settings) (some "caller")⟩]).2.map (·.effects) =
          [[.command .single ∅ ∅ true, .arm ⟨.single, 1⟩ 15000]] := by
  refine ⟨rfl, EngineConfig.codec_lawful.decode_encode _, rfl, rfl, ?_⟩
  decide +kernel

end WifiScan

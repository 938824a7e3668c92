import WifiScan.Engine.Request

/-!
# What buckets come to

A request scans what its buckets scan, each by itself (`EngineConfig.resolve_scan`), and believes
what it finds there (`EngineConfig.resolve_subset`). Selections are compared by their members, since
sets with the same members are the same.
-/
namespace WifiScan

/-- The frequencies that a bucket names: those of its band, or its channels. -/
def BucketSettings.frequencies (b : BucketSettings) (t : FrequencyTable) : FrequencySet :=
  match b.channels with
  | .band band => t.ofBand band
  | .channels fs => .ofList fs

/-- All frequencies of some sets. -/
def FrequencySet.unions (sets : List FrequencySet) : FrequencySet := sets.foldr (· ∪ ·) ∅

theorem FrequencySet.mem_unions {sets : List FrequencySet} {f : Frequency} :
    f ∈ unions sets ↔ ∃ s ∈ sets, f ∈ s := by
  induction sets with
  | nil => simp [unions]
  | cons s sets ih =>
    rw [unions, List.foldr_cons, ← unions, AscendingSet.mem_union, ih]
    simp only [List.mem_cons, exists_eq_or_imp]

theorem FrequencySet.mem_unions_map {α : Type} {l : List α} {set : α → FrequencySet}
    {f : Frequency} : f ∈ unions (l.map set) ↔ ∃ a ∈ l, f ∈ set a := by
  rw [mem_unions]
  constructor
  · rintro ⟨s, member, own⟩
    obtain ⟨a, among, rfl⟩ := List.mem_map.1 member
    exact ⟨a, among, own⟩
  · rintro ⟨a, among, own⟩
    exact ⟨set a, List.mem_map_of_mem among, own⟩

namespace FrequencyTable

variable {t : FrequencyTable} {m n : BandMask} {f : Frequency}

theorem mem_expand : f ∈ t.expand m ↔
    (m.getLsbD 0 = true ∧ f ∈ t.ghz24) ∨ (m.getLsbD 1 = true ∧ f ∈ t.ghz5) ∨
      (m.getLsbD 2 = true ∧ f ∈ t.ghz5Dfs) := by
  have chosen (b : Bool) (s : FrequencySet) :
      f ∈ (if b = true then s else ∅) ↔ b = true ∧ f ∈ s := by
    cases b <;> simp
  simp only [expand, ← BitVec.getLsbD_eq_getElem, AscendingSet.mem_union, chosen, or_assoc]

theorem not_mem_expand_zero (t : FrequencyTable) (f : Frequency) : f ∉ t.expand 0 := by
  simp [mem_expand]

theorem mem_expand_or : f ∈ t.expand (m ||| n) ↔ f ∈ t.expand m ∨ f ∈ t.expand n := by
  simp only [mem_expand, BitVec.getLsbD_or, Bool.or_eq_true]
  grind

end FrequencyTable

namespace ChannelSelection

variable {s : ChannelSelection} {f : Frequency}

theorem mem_scanFrequencies :
    f ∈ s.scanFrequencies ↔ f ∈ s.table.expand s.mask ∨ f ∈ s.channels :=
  AscendingSet.mem_union

theorem not_mem_empty (table : FrequencyTable) (policy : ValidityPolicy) :
    f ∉ (empty table policy).scanFrequencies := by
  simp [mem_scanFrequencies, empty, FrequencyTable.mem_expand]

/-- A bucket adds to a selection the frequencies that it names. -/
theorem mem_addBucket (s : ChannelSelection) (b : BucketSettings) :
    f ∈ (s.addBucket b).scanFrequencies ↔ f ∈ s.scanFrequencies ∨ f ∈ b.frequencies s.table := by
  cases channels : b.channels with
  | band band =>
    simp only [addBucket, BucketSettings.frequencies, channels, addBand, mem_scanFrequencies,
      FrequencyTable.mem_expand_or, FrequencyTable.ofBand]
    exact or_right_comm
  | channels fs =>
    simp only [addBucket, BucketSettings.frequencies, channels, addChannels, mem_scanFrequencies,
      AscendingSet.mem_union]
    rw [or_comm (a := f ∈ AscendingSet.ofList fs), or_assoc]

theorem addBucket_table (s : ChannelSelection) (b : BucketSettings) :
    (s.addBucket b).table = s.table := by
  unfold addBucket
  split <;> rfl

theorem addBucket_policy (s : ChannelSelection) (b : BucketSettings) :
    (s.addBucket b).policy = s.policy := by
  unfold addBucket
  split <;> rfl

theorem mem_foldl_addBucket (s : ChannelSelection) (buckets : List BucketSettings) :
    f ∈ (buckets.foldl addBucket s).scanFrequencies ↔
      f ∈ s.scanFrequencies ∨ ∃ b ∈ buckets, f ∈ b.frequencies s.table := by
  induction buckets generalizing s with
  | nil => simp
  | cons b buckets ih =>
    rw [List.foldl_cons, ih, mem_addBucket, addBucket_table, or_assoc]
    simp only [List.mem_cons, exists_eq_or_imp]

/-! ### Where results are believed -/

private theorem getLsbD_foldl_or (fs : List Frequency) (own : Frequency → BandMask) (m : BandMask)
    {i : Nat} (chosen : m.getLsbD i = true) :
    (fs.foldl (fun m f => m ||| own f) m).getLsbD i = true := by
  induction fs generalizing m with
  | nil => exact chosen
  | cons f fs ih =>
    refine ih (m ||| own f) ?_
    rw [BitVec.getLsbD_or, chosen, Bool.true_or]

/-- A selection touches every sub-band that it chooses. -/
theorem getLsbD_touched (s : ChannelSelection) {i : Nat} (chosen : s.mask.getLsbD i = true) :
    s.touched.getLsbD i = true :=
  getLsbD_foldl_or s.channels.toList (fun f => (s.table.bandOf? f).elim 0 Band.mask) s.mask chosen

/-- Results are believed wherever the scan goes. -/
theorem scanFrequencies_subset (s : ChannelSelection) :
    s.scanFrequencies ⊆ s.validFrequencies := by
  intro f scanned
  cases policy : s.policy with
  | matchScan =>
    simp only [validFrequencies, policy]
    exact scanned
  | wholeBand =>
    simp only [validFrequencies, policy, AscendingSet.mem_union]
    rcases mem_scanFrequencies.1 scanned with whole | alone
    · -- Each sub-band in turn: if it is chosen then it is touched.
      left
      rw [FrequencyTable.mem_expand] at whole ⊢
      exact whole.imp (And.imp_left s.getLsbD_touched)
        (Or.imp (And.imp_left s.getLsbD_touched) (And.imp_left s.getLsbD_touched))
    · exact Or.inr alone

end ChannelSelection

namespace EngineConfig

variable (config : EngineConfig) (buckets : List BucketSettings)

theorem resolve_length : (config.resolve buckets).perBucket.length = buckets.length :=
  List.length_map ..

theorem resolve_perBucket : (config.resolve buckets).perBucket =
    buckets.map (·.frequencies config.frequencyTable) := by
  refine List.map_congr_left fun b _ => AscendingSet.ext_mem fun f => ?_
  rw [ChannelSelection.mem_addBucket, or_iff_right (ChannelSelection.not_mem_empty _ _)]
  rfl

variable {buckets} in
theorem mem_resolve_scan {f : Frequency} : f ∈ (config.resolve buckets).scan ↔
    ∃ b ∈ buckets, f ∈ b.frequencies config.frequencyTable := by
  rw [resolve, ChannelSelection.mem_foldl_addBucket,
    or_iff_right (ChannelSelection.not_mem_empty _ _)]
  rfl

theorem resolve_scan :
    (config.resolve buckets).scan = FrequencySet.unions (config.resolve buckets).perBucket := by
  apply AscendingSet.ext_mem
  intro f
  rw [resolve_perBucket, FrequencySet.mem_unions_map, mem_resolve_scan]

theorem resolve_subset : (config.resolve buckets).scan ⊆ (config.resolve buckets).valid :=
  ChannelSelection.scanFrequencies_subset _

/-- A single bucket comes to the frequencies that it names. -/
theorem resolve_singleton (b : BucketSettings) :
    (config.resolve [b]).scan = b.frequencies config.frequencyTable := by
  apply AscendingSet.ext_mem
  intro f
  rw [mem_resolve_scan]
  simp only [List.mem_singleton, exists_eq_left]

/-- A single bucket with a band comes to the band. -/
theorem resolve_band {b : BucketSettings} {band : Band} (channels : b.channels = .band band) :
    (config.resolve [b]).scan = config.frequencyTable.ofBand band := by
  rw [resolve_singleton, BucketSettings.frequencies, channels]

/-- A single bucket with channels comes to these, whether or not the table has them. -/
theorem resolve_channels {b : BucketSettings} {fs : List Frequency}
    (channels : b.channels = .channels fs) : (config.resolve [b]).scan = .ofList fs := by
  rw [resolve_singleton, BucketSettings.frequencies, channels]

end EngineConfig

end WifiScan

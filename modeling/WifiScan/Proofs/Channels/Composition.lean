import WifiScan.Proofs.Channels.Resolution

/-!
# Buckets by themselves and together

The buckets of a request are resolved twice: each by itself, and all together as one mask of
sub-bands and one set of channels. The two agree, so that a request scans and believes what its
buckets do, however these are arranged.

## Main result

`bucket_resolution`: each bucket comes to the frequencies that it names; all buckets scan what each
scans and believe what each believes, and it does not matter in which order they stand, whether they
are repeated, or how they are split.

## Proof strategy

What a selection believes depends on what it scans and on nothing else
(`ChannelSelection.mem_validFrequencies`): a result is believed at one frequency because another is
scanned. So what is known of unions of scanned frequencies carries over.
-/
namespace WifiScan

/-! ### Sub-bands -/

/-- Two sets of sub-bands have one in common. -/
def BandMask.Meets (m n : BandMask) : Prop := m &&& n ≠ 0

instance (m n : BandMask) : Decidable (m.Meets n) := inferInstanceAs (Decidable (m &&& n ≠ 0))

theorem BandMask.or_meets (m n k : BandMask) :
    BandMask.Meets (m ||| n) k ↔ m.Meets k ∨ n.Meets k := by
  simp only [Meets, BitVec.and_or_distrib_right, Ne, BitVec.ofNat_eq_ofNat, BitVec.or_eq_zero_iff,
    Classical.not_and_iff_not_or_not]

theorem BandMask.foldl_or_meets (own : Frequency → BandMask) (fs : List Frequency)
    (m k : BandMask) :
    BandMask.Meets (fs.foldl (fun m f => m ||| own f) m) k ↔
      m.Meets k ∨ ∃ f ∈ fs, (own f).Meets k := by
  induction fs generalizing m with
  | nil => simp
  | cons f fs ih =>
    rw [List.foldl_cons, ih, or_meets, or_assoc]
    simp only [List.mem_cons, exists_eq_or_imp]

theorem Band.meets_iff (m : BandMask) :
    (m.Meets Band.ghz24.mask ↔ m.getLsbD 0 = true) ∧
      (m.Meets Band.ghz5.mask ↔ m.getLsbD 1 = true) ∧
        (m.Meets Band.ghz5DfsOnly.mask ↔ m.getLsbD 2 = true) := by
  revert m
  decide

namespace FrequencyTable

variable {t : FrequencyTable} {m : BandMask} {f g : Frequency} {b b' : Band}

/-- The sub-bands of a table, each with the frequencies that it holds. -/
def subBands (t : FrequencyTable) : List (Band × FrequencySet) :=
  [(.ghz24, t.ghz24), (.ghz5, t.ghz5), (.ghz5DfsOnly, t.ghz5Dfs)]

theorem mem_subBands {sub : Band × FrequencySet} : sub ∈ t.subBands ↔
    sub = (.ghz24, t.ghz24) ∨ sub = (.ghz5, t.ghz5) ∨ sub = (.ghz5DfsOnly, t.ghz5Dfs) := by
  simp only [subBands, List.mem_cons, List.not_mem_nil, or_false]

/-- The sub-band that is looked up first is the only one that holds the frequency. -/
theorem bandOf?_eq_some_iff :
    t.bandOf? f = some b ↔ ∃ held, (b, held) ∈ t.subBands ∧ f ∈ held := by
  simp only [mem_subBands, Prod.mk.injEq, or_and_right, exists_or, and_assoc, exists_and_left,
    exists_eq_left]
  unfold bandOf?
  -- The lookup stops at the first sub-band; the table's disjointness rules out those after it.
  by_cases low : f ∈ t.ghz24
  · have high : f ∉ t.ghz5 := fun member => t.ghz5_disjoint f member low
    have dfs : f ∉ t.ghz5Dfs := fun member => (t.ghz5Dfs_disjoint f member).1 low
    simp [low, high, dfs, eq_comm]
  · by_cases high : f ∈ t.ghz5
    · have dfs : f ∉ t.ghz5Dfs := fun member => (t.ghz5Dfs_disjoint f member).2 high
      simp [low, high, dfs, eq_comm]
    · by_cases dfs : f ∈ t.ghz5Dfs
      · simp [low, high, dfs, eq_comm]
      · simp [low, high, dfs]

/-- The frequencies of a mask are those whose sub-band it has. -/
theorem mem_expand_iff_bandOf? :
    f ∈ t.expand m ↔ ∃ b, t.bandOf? f = some b ∧ m.Meets b.mask := by
  obtain ⟨first, second, third⟩ := Band.meets_iff m
  simp only [mem_expand, ← first, ← second, ← third, bandOf?_eq_some_iff, mem_subBands,
    Prod.mk.injEq, or_and_right, exists_or, and_assoc, exists_and_left, exists_eq_left, and_comm]

theorem bandOf?_cases (own : t.bandOf? f = some b) : b = .ghz24 ∨ b = .ghz5 ∨ b = .ghz5DfsOnly := by
  obtain ⟨held, member, -⟩ := bandOf?_eq_some_iff.1 own
  rcases mem_subBands.1 member with own | own | own
  · exact Or.inl (congrArg Prod.fst own)
  · exact Or.inr (Or.inl (congrArg Prod.fst own))
  · exact Or.inr (Or.inr (congrArg Prod.fst own))

/-- Two frequencies have the same sub-band, or their sub-bands have nothing in common. -/
theorem meets_bandOf? (own : t.bandOf? f = some b) (own' : t.bandOf? g = some b') :
    b.mask.Meets b'.mask ↔ b = b' := by
  rcases bandOf?_cases own with rfl | rfl | rfl <;>
    rcases bandOf?_cases own' with rfl | rfl | rfl <;> decide

end FrequencyTable

/-! ### What is believed -/

/-- A scan of one frequency makes a result believed at another: at the same one, or by policy
anywhere in its sub-band. -/
inductive ValidityPolicy.Believes (p : ValidityPolicy) (t : FrequencyTable)
    (scanned found : Frequency) : Prop where
  | there (same : found = scanned)
  | nearby (whole : p = .wholeBand) (b : Band) (own : t.bandOf? scanned = some b)
      (own' : t.bandOf? found = some b)

namespace ChannelSelection

variable {s : ChannelSelection} {f g : Frequency}

/-- A selection touches the sub-bands that it chooses and those of its channels. -/
theorem touched_meets (k : BandMask) : s.touched.Meets k ↔
    s.mask.Meets k ∨ ∃ f ∈ s.channels, ∃ b, s.table.bandOf? f = some b ∧ b.mask.Meets k := by
  rw [touched, BandMask.foldl_or_meets]
  refine or_congr_right (exists_congr fun f => and_congr_right fun _ => ?_)
  cases s.table.bandOf? f with
  | none => simp [BandMask.Meets]
  | some b => simp

/-- A result is believed at a frequency exactly if that is so for the sake of one that is
scanned. -/
theorem mem_validFrequencies :
    g ∈ s.validFrequencies ↔ ∃ f ∈ s.scanFrequencies, s.policy.Believes s.table f g := by
  constructor
  · intro valid
    cases policy : s.policy with
    | matchScan =>
      simp only [validFrequencies, policy] at valid
      exact ⟨g, valid, .there rfl⟩
    | wholeBand =>
      simp only [validFrequencies, policy, AscendingSet.mem_union] at valid
      rcases valid with touched | alone
      · obtain ⟨b, own, meets⟩ := FrequencyTable.mem_expand_iff_bandOf?.1 touched
        rcases (touched_meets _).1 meets with chosen | ⟨f, channel, b', own', meets⟩
        · exact ⟨g, mem_scanFrequencies.2
            (Or.inl (FrequencyTable.mem_expand_iff_bandOf?.2 ⟨b, own, chosen⟩)), .there rfl⟩
        · obtain rfl := (FrequencyTable.meets_bandOf? own' own).1 meets
          exact ⟨f, mem_scanFrequencies.2 (Or.inr channel), .nearby rfl b' own' own⟩
      · exact ⟨g, mem_scanFrequencies.2 (Or.inr alone), .there rfl⟩
  · rintro ⟨f, scanned, same | ⟨policy, b, own, own'⟩⟩
    · rw [same]
      exact s.scanFrequencies_subset f scanned
    · -- The sub-band is touched, whether it was chosen or one of its channels was.
      have touched : s.touched.Meets b.mask := by
        rw [touched_meets]
        rcases mem_scanFrequencies.1 scanned with chosen | alone
        · obtain ⟨b', own'', meets⟩ := FrequencyTable.mem_expand_iff_bandOf?.1 chosen
          cases own''.symm.trans own
          exact Or.inl meets
        · exact Or.inr ⟨f, alone, b, own, (FrequencyTable.meets_bandOf? own own).2 rfl⟩
      simp only [validFrequencies, policy, AscendingSet.mem_union]
      exact Or.inl (FrequencyTable.mem_expand_iff_bandOf?.2 ⟨b, own', touched⟩)

theorem foldl_addBucket_table (s : ChannelSelection) (buckets : List BucketSettings) :
    (buckets.foldl addBucket s).table = s.table := by
  induction buckets generalizing s with
  | nil => rfl
  | cons b buckets ih => rw [List.foldl_cons, ih, addBucket_table]

theorem foldl_addBucket_policy (s : ChannelSelection) (buckets : List BucketSettings) :
    (buckets.foldl addBucket s).policy = s.policy := by
  induction buckets generalizing s with
  | nil => rfl
  | cons b buckets ih => rw [List.foldl_cons, ih, addBucket_policy]

end ChannelSelection

/-! ### Buckets together -/

/-- Buckets arranged anew: in another order, with one of them repeated, or with one of them split
into parts that together name the same frequencies. -/
inductive Rearranged (t : FrequencyTable) : List BucketSettings → List BucketSettings → Prop where
  | permuted {buckets buckets' : List BucketSettings} (same : buckets.Perm buckets') :
      Rearranged t buckets buckets'
  | repeated {b : BucketSettings} {buckets : List BucketSettings} (member : b ∈ buckets) :
      Rearranged t buckets (b :: buckets)
  | split {b : BucketSettings} (parts buckets : List BucketSettings)
      (whole : ∀ f, f ∈ b.frequencies t ↔ ∃ part ∈ parts, f ∈ part.frequencies t) :
      Rearranged t (b :: buckets) (parts ++ buckets)
  | symm {buckets buckets' : List BucketSettings} (back : Rearranged t buckets' buckets) :
      Rearranged t buckets buckets'
  | trans {buckets between buckets' : List BucketSettings} (first : Rearranged t buckets between)
      (second : Rearranged t between buckets') : Rearranged t buckets buckets'

namespace Rearranged

variable {t : FrequencyTable} {buckets buckets' : List BucketSettings}

/-- A bucket with a band can be split into two with bands that share out its sub-bands. -/
theorem splitBand {b b₁ b₂ : BucketSettings} {band band₁ band₂ : Band}
    (own : b.channels = .band band) (own₁ : b₁.channels = .band band₁)
    (own₂ : b₂.channels = .band band₂) (whole : band.mask = band₁.mask ||| band₂.mask) :
    Rearranged t (b :: buckets) (b₁ :: b₂ :: buckets) := by
  apply Rearranged.split [b₁, b₂] buckets
  intro f
  simp only [BucketSettings.frequencies, own, own₁, own₂, FrequencyTable.ofBand, whole,
    FrequencyTable.mem_expand_or, List.mem_cons, List.not_mem_nil, or_false, exists_eq_or_imp,
    exists_eq_left]

/-- A bucket with channels can be split into two with channels that share out these. -/
theorem splitChannels {b b₁ b₂ : BucketSettings} {fs fs₁ fs₂ : List Frequency}
    (own : b.channels = .channels fs) (own₁ : b₁.channels = .channels fs₁)
    (own₂ : b₂.channels = .channels fs₂) (whole : ∀ f, f ∈ fs ↔ f ∈ fs₁ ∨ f ∈ fs₂) :
    Rearranged t (b :: buckets) (b₁ :: b₂ :: buckets) := by
  apply Rearranged.split [b₁, b₂] buckets
  intro f
  simp only [BucketSettings.frequencies, own, own₁, own₂, AscendingSet.mem_ofList, whole,
    List.mem_cons, List.not_mem_nil, or_false, exists_eq_or_imp, exists_eq_left]

/-- Buckets arranged anew name the same frequencies together. -/
theorem named_iff (anew : Rearranged t buckets buckets') (f : Frequency) :
    (∃ b ∈ buckets, f ∈ b.frequencies t) ↔ ∃ b ∈ buckets', f ∈ b.frequencies t := by
  induction anew with
  | permuted same => exact exists_congr fun b => and_congr_left fun _ => same.mem_iff
  | repeated member =>
    simp only [List.mem_cons, exists_eq_or_imp]
    exact ⟨Or.inr, Or.rec (fun named => ⟨_, member, named⟩) id⟩
  | split parts buckets whole =>
    simp only [List.mem_cons, List.mem_append, or_and_right, exists_or, exists_eq_left, whole]
  | symm _ ih => exact ih.symm
  | trans _ _ first second => exact first.trans second

end Rearranged

namespace EngineConfig

variable (config : EngineConfig) {buckets buckets' : List BucketSettings} {f g : Frequency}

/-- Where buckets believe results is determined by where they scan. -/
theorem mem_resolve_valid : g ∈ (config.resolve buckets).valid ↔
    ∃ f ∈ (config.resolve buckets).scan,
      config.validityPolicy.Believes config.frequencyTable f g := by
  rw [resolve, ChannelSelection.mem_validFrequencies, ChannelSelection.foldl_addBucket_table,
    ChannelSelection.foldl_addBucket_policy]
  rfl

theorem resolve_rearranged (anew : Rearranged config.frequencyTable buckets buckets') :
    (config.resolve buckets).scan = (config.resolve buckets').scan ∧
      (config.resolve buckets).valid = (config.resolve buckets').valid := by
  have scan : (config.resolve buckets).scan = (config.resolve buckets').scan :=
    AscendingSet.ext_mem fun f => by
      rw [mem_resolve_scan, mem_resolve_scan, anew.named_iff]
  refine ⟨scan, AscendingSet.ext_mem fun g => ?_⟩
  rw [mem_resolve_valid, mem_resolve_valid, scan]

theorem resolve_valid : (config.resolve buckets).valid =
    FrequencySet.unions (buckets.map fun b => (config.resolve [b]).valid) := by
  apply AscendingSet.ext_mem
  intro g
  simp only [FrequencySet.mem_unions_map, mem_resolve_valid, resolve_singleton, mem_resolve_scan]
  constructor
  · rintro ⟨f, ⟨b, member, named⟩, believes⟩
    exact ⟨b, member, f, named, believes⟩
  · rintro ⟨b, member, f, named, believes⟩
    exact ⟨f, ⟨b, member, named⟩, believes⟩

theorem resolve_matchScan (policy : config.validityPolicy = .matchScan) :
    (config.resolve buckets).valid = (config.resolve buckets).scan := by
  apply AscendingSet.ext_mem
  intro g
  rw [mem_resolve_valid]
  constructor
  · rintro ⟨f, scanned, same | ⟨whole, b, own, own'⟩⟩
    · exact same ▸ scanned
    · cases policy.symm.trans whole
  · intro scanned
    exact ⟨g, scanned, .there rfl⟩

/-- Buckets with 2.4 GHz and with DFS alone scan nothing between, which has no band of its own. -/
theorem not_mem_resolve_scan_gap
    (apart : ∀ b ∈ buckets, b.channels = .band .ghz24 ∨ b.channels = .band .ghz5DfsOnly)
    (between : f ∈ config.frequencyTable.ghz5) : f ∉ (config.resolve buckets).scan := by
  have low : f ∉ config.frequencyTable.ghz24 := config.frequencyTable.ghz5_disjoint f between
  have dfs : f ∉ config.frequencyTable.ghz5Dfs := fun member =>
    (config.frequencyTable.ghz5Dfs_disjoint f member).2 between
  rw [mem_resolve_scan]
  rintro ⟨b, member, named⟩
  rcases apart b member with own | own <;>
    simp [BucketSettings.frequencies, own, FrequencyTable.ofBand, FrequencyTable.mem_expand,
      Band.mask, low, dfs] at named

end EngineConfig

/-- What buckets come to, by themselves and together. -/
structure BucketResolution (config : EngineConfig) (buckets : List BucketSettings) : Prop where
  perBucket : ∀ i : Nat, (config.resolve buckets).perBucket[i]? =
    buckets[i]?.map (·.frequencies config.frequencyTable)
  scan : (config.resolve buckets).scan = FrequencySet.unions (config.resolve buckets).perBucket
  /-- The union of the bands of 2.4 GHz and of DFS alone is wider than what buckets with these bands
  come to. -/
  gap : (∀ b ∈ buckets, b.channels = .band .ghz24 ∨ b.channels = .band .ghz5DfsOnly) →
    ∀ f ∈ config.frequencyTable.ghz5, f ∉ (config.resolve buckets).scan ∧
      f ∈ config.frequencyTable.ofBand (.union .ghz24 .ghz5DfsOnly)
  valid : (config.resolve buckets).valid =
    FrequencySet.unions (buckets.map fun b => (config.resolve [b]).valid)
  subset : (config.resolve buckets).scan ⊆ (config.resolve buckets).valid
  matchScan : config.validityPolicy = .matchScan →
    (config.resolve buckets).valid = (config.resolve buckets).scan
  rearranged : ∀ buckets', Rearranged config.frequencyTable buckets buckets' →
    (config.resolve buckets).scan = (config.resolve buckets').scan ∧
      (config.resolve buckets).valid = (config.resolve buckets').valid

/-- Buckets together come to what they come to by themselves, however they are arranged. -/
theorem bucket_resolution (config : EngineConfig) (buckets : List BucketSettings) :
    BucketResolution config buckets where
  perBucket i := by rw [config.resolve_perBucket, List.getElem?_map]
  scan := config.resolve_scan buckets
  gap apart f between := by
    refine ⟨config.not_mem_resolve_scan_gap apart between, ?_⟩
    have whole : Band.union .ghz24 .ghz5DfsOnly = .bothWithDfs := by decide
    rw [whole, FrequencyTable.ofBand, FrequencyTable.mem_expand]
    exact Or.inr (Or.inl ⟨rfl, between⟩)
  valid := config.resolve_valid
  subset := config.resolve_subset buckets
  matchScan := config.resolve_matchScan
  rearranged _ := config.resolve_rearranged

end WifiScan

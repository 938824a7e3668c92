import WifiScan.Proofs.Channels.Selections

/-!
# Questions and sets

A selection answers questions about one frequency by a lookup: which sub-band the frequency has, and
whether the mask has that sub-band. It answers questions about all frequencies by an expansion: the
mask is turned into a set. No frequency has two sub-bands, and so the two agree.

## Main result

`queries_agree`: a channel is contained in a selection exactly if it is scanned; a band has the
frequencies whose sub-band it includes; a band that is contained is scanned as a whole; and the
table is covered exactly if every frequency with a sub-band is contained.
-/
namespace WifiScan

/-- A band has a sub-band in common with a single one exactly if it includes that one. -/
theorem Band.meets_single (b : Band) {sub : Band}
    (single : sub = .ghz24 ∨ sub = .ghz5 ∨ sub = .ghz5DfsOnly) :
    b.mask.Meets sub.mask ↔ b.includes sub = true := by
  have of (bit : BandMask) (one : bit = 1 ∨ bit = 2 ∨ bit = 4) :
      ∀ m : BandMask, m.Meets bit ↔ m &&& bit = bit := by
    rcases one with rfl | rfl | rfl <;> decide
  rw [includes, decide_eq_true_eq]
  rcases single with rfl | rfl | rfl
  · exact of 1 (Or.inl rfl) b.mask
  · exact of 2 (Or.inr (Or.inl rfl)) b.mask
  · exact of 4 (Or.inr (Or.inr rfl)) b.mask

namespace FrequencyTable

variable {t : FrequencyTable} {f : Frequency} {b : Band}

theorem subBands_unique {held held' : FrequencySet} (member : (b, held) ∈ t.subBands)
    (member' : (b, held') ∈ t.subBands) : held = held' := by
  rcases mem_subBands.1 member with own | own | own <;> cases own <;>
    rcases mem_subBands.1 member' with own' | own' | own' <;> cases own' <;> rfl

/-- Two sub-bands that hold the same frequency are the same. -/
theorem subBands_disjoint {sub sub' : Band × FrequencySet} (member : sub ∈ t.subBands)
    (member' : sub' ∈ t.subBands) (own : f ∈ sub.2) (own' : f ∈ sub'.2) : sub = sub' := by
  obtain ⟨b, held⟩ := sub
  obtain ⟨b', held'⟩ := sub'
  have found := bandOf?_eq_some_iff.2 ⟨held, member, own⟩
  have found' := bandOf?_eq_some_iff.2 ⟨held', member', own'⟩
  -- The lookup has one answer.
  cases found.symm.trans found'
  rw [subBands_unique member member']

theorem mem_ofBand_iff_bandOf? :
    f ∈ t.ofBand b ↔ ∃ sub, t.bandOf? f = some sub ∧ b.includes sub = true := by
  rw [ofBand, mem_expand_iff_bandOf?]
  exact exists_congr fun sub => and_congr_right fun own => b.meets_single (bandOf?_cases own)

theorem mem_frequencies_iff_bandOf? : f ∈ t.frequencies ↔ (t.bandOf? f).isSome = true := by
  rw [frequencies, mem_ofBand_iff_bandOf?, Option.isSome_iff_exists]
  refine exists_congr fun sub => and_iff_left_of_imp fun _ => ?_
  -- The widest band includes every band.
  cases sub <;> decide

end FrequencyTable

namespace ChannelSelection

theorem ofChoices_table (table : FrequencyTable) (policy : ValidityPolicy) (cs : List Choice) :
    (ofChoices table policy cs).table = table := by
  rw [ofChoices_eq]

theorem ofChoices_policy (table : FrequencyTable) (policy : ValidityPolicy) (cs : List Choice) :
    (ofChoices table policy cs).policy = policy := by
  rw [ofChoices_eq]

variable {s : ChannelSelection} {b : Band}

theorem ofBand_subset (chosen : s.containsBand b = true) :
    s.table.ofBand b ⊆ s.scanFrequencies := by
  -- The band's own bits are in the mask already, so the mask expands to the band and more.
  have wider : ∀ all own : BandMask, all &&& own = own → all = all ||| own := by decide
  simp only [containsBand, Bool.and_eq_true, decide_eq_true_eq] at chosen
  intro f member
  rw [mem_scanFrequencies, wider _ _ chosen.2, FrequencyTable.mem_expand_or]
  exact Or.inl (Or.inr member)

theorem coversTable_iff : s.coversTable = true ↔
    ∀ f, (s.table.bandOf? f).isSome = true → s.containsChannel f = true := by
  simp only [coversTable, decide_eq_true_eq, AscendingSet.subset_iff, containsChannel_iff,
    FrequencyTable.mem_frequencies_iff_bandOf?]

end ChannelSelection

/-- The questions about a table and the selections over it are answered as their sets are. -/
structure QueriesAgree (t : FrequencyTable) : Prop where
  /-- The lookup of a frequency finds the sub-band that holds it. -/
  lookup : ∀ f b, t.bandOf? f = some b ↔ ∃ held, (b, held) ∈ t.subBands ∧ f ∈ held
  /-- A band has the frequencies whose sub-band it includes. -/
  band : ∀ b f, f ∈ t.ofBand b ↔ ∃ sub, t.bandOf? f = some sub ∧ b.includes sub = true
  channel : ∀ policy cs f,
    let s := ChannelSelection.ofChoices t policy cs
    s.containsChannel f = true ↔ f ∈ s.scanFrequencies
  whole : ∀ policy cs b,
    let s := ChannelSelection.ofChoices t policy cs
    s.containsBand b = true → t.ofBand b ⊆ s.scanFrequencies
  covers : ∀ policy cs,
    let s := ChannelSelection.ofChoices t policy cs
    s.coversTable = true ↔ ∀ f, (t.bandOf? f).isSome = true → s.containsChannel f = true

/-- Whatever the table is, and whatever was chosen from it, lookups agree with expansions. -/
theorem queries_agree (t : FrequencyTable) : QueriesAgree t where
  lookup _ _ := FrequencyTable.bandOf?_eq_some_iff
  band _ _ := FrequencyTable.mem_ofBand_iff_bandOf?
  channel _ _ _ := ChannelSelection.containsChannel_iff
  whole policy cs b chosen := by
    have subset := ChannelSelection.ofBand_subset chosen
    rwa [ChannelSelection.ofChoices_table] at subset
  covers policy cs := by
    have covers := ChannelSelection.coversTable_iff (s := .ofChoices t policy cs)
    rwa [ChannelSelection.ofChoices_table] at covers

end WifiScan

import Mathlib.Order.Closure
import Mathlib.Order.CompletePartialOrder
import WifiScan.Proofs.Channels.Queries

/-!
# Believing whole bands

By the policy of whole bands a result is believed anywhere in the sub-bands that the scan touches.
What is believed is then a closure of what is scanned: each sub-band is there as a whole as soon as
one of its frequencies is.

## Main result

`believes_whole_bands`: a frequency is believed exactly if it was chosen by itself, or lies in a
sub-band that a chosen band includes or that holds a chosen channel. What is believed contains what
is scanned, grows with the choices, and stays the same when all of it is chosen by itself; and a
channel outside of the table is believed alone.

## Proof strategy

`FrequencyTable.wholeBands` is the closure on any sets of frequencies. It is idempotent because no
frequency lies in two sub-bands: a frequency that came with its sub-band brings no other one. A
selection believes the closure of what it scans (`validFrequencies_eq`), and the laws of closures
carry over.
-/
namespace WifiScan

namespace FrequencyTable

variable {t : FrequencyTable} {f g : Frequency} {b : Band}

/-- The frequencies of some set, and all frequencies of the sub-bands that hold one of them. -/
def wholeBands (t : FrequencyTable) : ClosureOperator (Set Frequency) :=
  ClosureOperator.mk' (fun X => {g | g ∈ X ∨ ∃ sub ∈ t.subBands, g ∈ sub.2 ∧ ∃ f ∈ X, f ∈ sub.2})
    (by
      rintro X Y subset g (alone | ⟨sub, member, held, f, inX, touched⟩)
      · exact Or.inl (subset alone)
      · exact Or.inr ⟨sub, member, held, f, subset inX, touched⟩)
    (fun X g => Or.inl)
    (by
      rintro X g (once | ⟨sub, member, held, f, alone | ⟨sub', member', held', f', inX, touched⟩,
        touches⟩)
      · exact once
      · exact Or.inr ⟨sub, member, held, f, alone, touches⟩
      · -- The sub-band of `f` that `f'` has brought is the one that `f` brings.
        cases subBands_disjoint member' member held' touches
        exact Or.inr ⟨sub, member, held, f', inX, touched⟩)

theorem mem_wholeBands {X : Set Frequency} : g ∈ t.wholeBands X ↔
    g ∈ X ∨ ∃ sub ∈ t.subBands, g ∈ sub.2 ∧ ∃ f ∈ X, f ∈ sub.2 := Iff.rfl

/-- A band has the frequencies of the sub-bands that it includes. -/
theorem mem_ofBand_iff :
    f ∈ t.ofBand b ↔ ∃ sub ∈ t.subBands, b.includes sub.1 = true ∧ f ∈ sub.2 := by
  simp only [mem_ofBand_iff_bandOf?, bandOf?_eq_some_iff, Prod.exists]
  constructor
  · rintro ⟨sub, ⟨held, member, own⟩, includes⟩
    exact ⟨sub, held, member, includes, own⟩
  · rintro ⟨sub, held, member, includes, own⟩
    exact ⟨sub, ⟨held, member, own⟩, includes⟩

/-- Two frequencies have the same sub-band if one sub-band holds both. -/
theorem believes_wholeBand_iff : ValidityPolicy.Believes .wholeBand t f g ↔
    g = f ∨ ∃ sub ∈ t.subBands, g ∈ sub.2 ∧ f ∈ sub.2 := by
  constructor
  · rintro (same | ⟨-, b, own, own'⟩)
    · exact Or.inl same
    · obtain ⟨held, member, mine⟩ := bandOf?_eq_some_iff.1 own
      obtain ⟨held', member', its⟩ := bandOf?_eq_some_iff.1 own'
      rw [← subBands_unique member member'] at its
      exact Or.inr ⟨(b, held), member, its, mine⟩
  · rintro (same | ⟨⟨b, held⟩, member, its, mine⟩)
    · exact .there same
    · exact .nearby rfl b (bandOf?_eq_some_iff.2 ⟨held, member, mine⟩)
        (bandOf?_eq_some_iff.2 ⟨held, member, its⟩)

end FrequencyTable

namespace ChannelSelection

variable {s : ChannelSelection}

/-- What is believed is the closure of what is scanned. -/
theorem validFrequencies_eq (policy : s.policy = .wholeBand) :
    {g | g ∈ s.validFrequencies} = s.table.wholeBands {f | f ∈ s.scanFrequencies} := by
  ext g
  simp only [Set.mem_ofPred_eq, mem_validFrequencies, policy, FrequencyTable.believes_wholeBand_iff,
    FrequencyTable.mem_wholeBands]
  constructor
  · rintro ⟨f, scanned, rfl | ⟨sub, member, its, mine⟩⟩
    · exact Or.inl scanned
    · exact Or.inr ⟨sub, member, its, f, scanned, mine⟩
  · rintro (scanned | ⟨sub, member, its, f, scanned, mine⟩)
    · exact ⟨g, scanned, Or.inl rfl⟩
    · exact ⟨f, scanned, Or.inr ⟨sub, member, its, mine⟩⟩

/-- The frequencies at which results are believed after some choices, by the policy of whole
bands. -/
def believed (t : FrequencyTable) (cs : List Choice) : FrequencySet :=
  (ofChoices t .wholeBand cs).validFrequencies

variable {t : FrequencyTable} {cs cs' : List Choice} {f g : Frequency}

theorem believed_eq (t : FrequencyTable) (cs : List Choice) :
    {g | g ∈ believed t cs} =
      t.wholeBands {f | f ∈ (ofChoices t .wholeBand cs).scanFrequencies} := by
  have closed := validFrequencies_eq (ofChoices_policy t .wholeBand cs)
  rwa [ofChoices_table] at closed

theorem mem_scanFrequencies_ofChoices {policy : ValidityPolicy} :
    f ∈ (ofChoices t policy cs).scanFrequencies ↔
      f ∈ Choice.channelsOf cs ∨
        ∃ sub ∈ t.subBands, f ∈ sub.2 ∧ ∃ b ∈ Choice.bandsOf cs, b.includes sub.1 = true := by
  rw [scanFrequencies_ofChoices, AscendingSet.mem_union, AscendingSet.mem_ofList, or_comm,
    FrequencySet.mem_unions_map]
  simp only [FrequencyTable.mem_ofBand_iff]
  refine or_congr_right ⟨?_, ?_⟩
  · rintro ⟨b, chosen, sub, member, includes, held⟩
    exact ⟨sub, member, held, b, chosen, includes⟩
  · rintro ⟨sub, member, held, b, chosen, includes⟩
    exact ⟨b, chosen, sub, member, includes, held⟩

/-- Believed are the channels, and the sub-bands that a band or a channel touches. -/
theorem mem_believed : g ∈ believed t cs ↔ g ∈ Choice.channelsOf cs ∨
    ∃ sub ∈ t.subBands, g ∈ sub.2 ∧
      ((∃ b ∈ Choice.bandsOf cs, b.includes sub.1 = true) ∨
        ∃ f ∈ Choice.channelsOf cs, f ∈ sub.2) := by
  have closed := Set.ext_iff.1 (believed_eq t cs) g
  simp only [Set.mem_ofPred_eq, FrequencyTable.mem_wholeBands, mem_scanFrequencies_ofChoices]
    at closed
  rw [closed]
  constructor
  · rintro ((alone | ⟨sub, member, held, chosen⟩) | ⟨sub, member, held, f, alone | ⟨sub', member',
      held', chosen⟩, touched⟩)
    · exact Or.inl alone
    · exact Or.inr ⟨sub, member, held, Or.inl chosen⟩
    · exact Or.inr ⟨sub, member, held, Or.inr ⟨f, alone, touched⟩⟩
    · -- Scanned with its sub-band, `f` touches only that one, and a band has brought it already.
      cases FrequencyTable.subBands_disjoint member' member held' touched
      exact Or.inr ⟨sub, member, held, Or.inl chosen⟩
  · rintro (alone | ⟨sub, member, held, chosen | ⟨f, alone, touched⟩⟩)
    · exact Or.inl (Or.inl alone)
    · exact Or.inl (Or.inr ⟨sub, member, held, chosen⟩)
    · exact Or.inr ⟨sub, member, held, f, Or.inl alone, touched⟩

/-- More bands and more channels make more believed. -/
theorem believed_subset (bands : Choice.bandsOf cs ⊆ Choice.bandsOf cs')
    (channels : Choice.channelsOf cs ⊆ Choice.channelsOf cs') :
    believed t cs ⊆ believed t cs' := by
  intro g valid
  refine mem_believed.2 ((mem_believed.1 valid).imp (@channels g) ?_)
  rintro ⟨sub, member, held, touched⟩
  refine ⟨sub, member, held, touched.imp ?_ ?_⟩
  · rintro ⟨b, chosen, includes⟩
    exact ⟨b, bands chosen, includes⟩
  · rintro ⟨f, chosen, touches⟩
    exact ⟨f, channels chosen, touches⟩

/-- To choose all that is believed, channel by channel, makes nothing else believed. -/
theorem believed_again (fresh : Choice.bandsOf cs' = [])
    (channels : ∀ f, f ∈ Choice.channelsOf cs' ↔ f ∈ believed t cs) :
    believed t cs' = believed t cs := by
  -- What is scanned the second time is a closure, which is closed.
  have scanned : {f | f ∈ (ofChoices t .wholeBand cs').scanFrequencies} =
      {g | g ∈ believed t cs} := by
    ext f
    simp [mem_scanFrequencies_ofChoices, fresh, channels]
  have closed : {g | g ∈ believed t cs'} = {g | g ∈ believed t cs} := by
    rw [believed_eq, scanned, believed_eq, t.wholeBands.idempotent]
  exact AscendingSet.ext_mem (Set.ext_iff.1 closed)

/-- Channels outside of the table touch no sub-band. -/
theorem believed_outside {fs : List Frequency}
    (bands : ∀ b, b ∈ Choice.bandsOf cs' ↔ b ∈ Choice.bandsOf cs)
    (channels : ∀ f, f ∈ Choice.channelsOf cs' ↔ f ∈ Choice.channelsOf cs ∨ f ∈ fs)
    (outside : ∀ f ∈ fs, ∀ sub ∈ t.subBands, f ∉ sub.2) :
    believed t cs' = believed t cs ∪ .ofList fs := by
  apply AscendingSet.ext_mem
  intro g
  rw [AscendingSet.mem_union, AscendingSet.mem_ofList, mem_believed, mem_believed, channels,
    or_right_comm]
  -- A frequency outside the table touches none of its sub-bands.
  refine or_congr_left (or_congr_right (exists_congr fun sub => and_congr_right fun member =>
    and_congr_right fun _ => or_congr ?_ ?_))
  · simp only [bands]
  · simp only [channels]
    constructor
    · rintro ⟨f, chosen | new, touched⟩
      · exact ⟨f, chosen, touched⟩
      · exact absurd touched (outside f new sub member)
    · rintro ⟨f, chosen, touched⟩
      exact ⟨f, Or.inl chosen, touched⟩

end ChannelSelection

open ChannelSelection in
/-- What is believed of a table, after any choices, by the policy of whole bands. -/
structure BelievesWholeBands (t : FrequencyTable) : Prop where
  mem : ∀ cs g, g ∈ believed t cs ↔ g ∈ Choice.channelsOf cs ∨
    ∃ sub ∈ t.subBands, g ∈ sub.2 ∧
      ((∃ b ∈ Choice.bandsOf cs, b.includes sub.1 = true) ∨
        ∃ f ∈ Choice.channelsOf cs, f ∈ sub.2)
  closure : ∀ cs, {g | g ∈ believed t cs} =
    t.wholeBands {f | f ∈ (ofChoices t .wholeBand cs).scanFrequencies}
  subset : ∀ cs, (ofChoices t .wholeBand cs).scanFrequencies ⊆ believed t cs
  monotone : ∀ cs cs', Choice.bandsOf cs ⊆ Choice.bandsOf cs' →
    Choice.channelsOf cs ⊆ Choice.channelsOf cs' → believed t cs ⊆ believed t cs'
  /-- The second selection has no bands, and its channels are all that the first one believes. -/
  idempotent : ∀ cs cs', Choice.bandsOf cs' = [] →
    (∀ f, f ∈ Choice.channelsOf cs' ↔ f ∈ believed t cs) → believed t cs' = believed t cs
  /-- The second selection has the same bands, and other channels only outside of the table. -/
  outside : ∀ cs cs' fs, (∀ b, b ∈ Choice.bandsOf cs' ↔ b ∈ Choice.bandsOf cs) →
    (∀ f, f ∈ Choice.channelsOf cs' ↔ f ∈ Choice.channelsOf cs ∨ f ∈ fs) →
      (∀ f ∈ fs, ∀ sub ∈ t.subBands, f ∉ sub.2) → believed t cs' = believed t cs ∪ .ofList fs

/-- Over every table, what is believed by the policy of whole bands is a closure of what is
scanned. -/
theorem believes_whole_bands (t : FrequencyTable) : BelievesWholeBands t where
  mem _ _ := ChannelSelection.mem_believed
  closure := ChannelSelection.believed_eq t
  subset _ := ChannelSelection.scanFrequencies_subset _
  monotone _ _ := ChannelSelection.believed_subset
  idempotent _ _ := ChannelSelection.believed_again
  outside _ _ _ := ChannelSelection.believed_outside

end WifiScan

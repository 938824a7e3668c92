import Mathlib.Data.List.DropRight
import Mathlib.Data.List.Induction
import WifiScan.Proofs.Channels.Composition

/-!
# Choices one after another

A selection is made by choices of bands and channels, and may be cleared in between. It keeps a mask
and a set, so it forgets in which order and how often something was chosen, and everything chosen
before it was last cleared.

## Main result

`choices_forgotten`: a selection scans the bands and channels chosen since it was last cleared;
choices with the same sub-bands and the same channels are answered alike, whatever their order and
number; and a choice takes nothing away.

## Proof strategy

`ChannelSelection.ofChoices_eq` says what any choices leave behind: the union of the masks, and the
set of the channels. That a choice takes nothing away is shown of selections in general (`Grows`).
-/
namespace WifiScan

/-! ### Choices -/

/-- Something that is done to a selection. -/
inductive Choice where
  | band (b : Band)
  | channel (f : Frequency)
  | channels (fs : List Frequency)
  | clear
  deriving DecidableEq, Repr

namespace Choice

def apply (s : ChannelSelection) : Choice → ChannelSelection
  | band b => s.addBand b
  | channel f => s.addChannel f
  | channels fs => s.addChannels fs
  | clear => s.clear

/-- Whether something is added to the selection. -/
def adds (c : Choice) : Bool := c ≠ clear

def bands : Choice → List Band
  | band b => [b]
  | channel _ | channels _ | clear => []

def frequencies : Choice → List Frequency
  | channel f => [f]
  | channels fs => fs
  | band _ | clear => []

/-- The choices since the last time that the selection was cleared. -/
def sinceCleared (cs : List Choice) : List Choice := cs.rtakeWhile adds

theorem sinceCleared_concat (cs : List Choice) (c : Choice) :
    sinceCleared (cs ++ [c]) = if c.adds then sinceCleared cs ++ [c] else [] :=
  List.rtakeWhile_concat ..

/-- The bands that stand after some choices. -/
def bandsOf (cs : List Choice) : List Band := (sinceCleared cs).flatMap bands

/-- The channels that stand after some choices. -/
def channelsOf (cs : List Choice) : List Frequency := (sinceCleared cs).flatMap frequencies

theorem standing_clear (cs : List Choice) :
    bandsOf (cs ++ [clear]) = [] ∧ channelsOf (cs ++ [clear]) = [] := by
  simp only [bandsOf, channelsOf, sinceCleared_concat]
  exact ⟨rfl, rfl⟩

theorem bandsOf_concat (cs : List Choice) {c : Choice} (adds : c.adds = true) :
    bandsOf (cs ++ [c]) = bandsOf cs ++ c.bands := by
  rw [bandsOf, sinceCleared_concat, if_pos adds, List.flatMap_append, List.flatMap_singleton,
    bandsOf]

theorem channelsOf_concat (cs : List Choice) {c : Choice} (adds : c.adds = true) :
    channelsOf (cs ++ [c]) = channelsOf cs ++ c.frequencies := by
  rw [channelsOf, sinceCleared_concat, if_pos adds, List.flatMap_append, List.flatMap_singleton,
    channelsOf]

end Choice

/-- The sub-bands of all of some bands. -/
def Band.jointMask (bands : List Band) : BandMask := bands.foldl (fun m b => m ||| b.mask) 0

theorem Band.jointMask_append (bands more : List Band) :
    jointMask (bands ++ more) = more.foldl (fun m b => m ||| b.mask) (jointMask bands) :=
  List.foldl_append

theorem FrequencyTable.mem_expand_jointMask {t : FrequencyTable} {f : Frequency}
    (bands : List Band) : f ∈ t.expand (Band.jointMask bands) ↔ ∃ b ∈ bands, f ∈ t.ofBand b := by
  induction bands using List.reverseRecOn with
  | nil => simpa [Band.jointMask] using t.not_mem_expand_zero f
  | append_singleton bands b ih =>
    rw [Band.jointMask_append, List.foldl_cons, List.foldl_nil, mem_expand_or, ih]
    simp only [List.mem_append, List.mem_singleton, or_and_right, exists_or, exists_eq_left]
    rfl

namespace ChannelSelection

/-- The selection that choices make. -/
def ofChoices (table : FrequencyTable) (policy : ValidityPolicy) (cs : List Choice) :
    ChannelSelection :=
  cs.foldl Choice.apply (empty table policy)

theorem ofChoices_concat (table : FrequencyTable) (policy : ValidityPolicy) (cs : List Choice)
    (c : Choice) : ofChoices table policy (cs ++ [c]) = c.apply (ofChoices table policy cs) :=
  List.foldl_concat ..

/-- What choices leave behind. -/
theorem ofChoices_eq (table : FrequencyTable) (policy : ValidityPolicy) (cs : List Choice) :
    ofChoices table policy cs =
      ⟨table, policy, Band.jointMask (Choice.bandsOf cs), .ofList (Choice.channelsOf cs)⟩ := by
  induction cs using List.reverseRecOn with
  | nil => rfl
  | append_singleton cs c ih =>
    rw [ofChoices_concat, ih]
    cases c with
    | band b =>
      rw [Choice.bandsOf_concat cs rfl, Choice.channelsOf_concat cs rfl, Band.jointMask_append,
        Choice.frequencies, List.append_nil]
      rfl
    | channel f =>
      -- A set does not tell in which order its members were put there.
      have channels : (AscendingSet.ofList (Choice.channelsOf cs)).insert f =
          .ofList (Choice.channelsOf cs ++ [f]) :=
        AscendingSet.ext_mem fun g => by simp [or_comm]
      rw [Choice.bandsOf_concat cs rfl, Choice.channelsOf_concat cs rfl, Choice.frequencies,
        ← channels, Choice.bands, List.append_nil]
      rfl
    | channels fs =>
      have channels : AscendingSet.ofList fs ∪ .ofList (Choice.channelsOf cs) =
          .ofList (Choice.channelsOf cs ++ fs) :=
        AscendingSet.ext_mem fun g => by simp [or_comm]
      rw [Choice.bandsOf_concat cs rfl, Choice.channelsOf_concat cs rfl, Choice.frequencies,
        ← channels, Choice.bands, List.append_nil]
      rfl
    | clear =>
      rw [(Choice.standing_clear cs).1, (Choice.standing_clear cs).2]
      rfl

theorem scanFrequencies_ofChoices (table : FrequencyTable) (policy : ValidityPolicy)
    (cs : List Choice) : (ofChoices table policy cs).scanFrequencies =
      FrequencySet.unions ((Choice.bandsOf cs).map table.ofBand) ∪
        .ofList (Choice.channelsOf cs) := by
  apply AscendingSet.ext_mem
  intro f
  rw [ofChoices_eq, mem_scanFrequencies, AscendingSet.mem_union, FrequencySet.mem_unions_map]
  exact or_congr_left (FrequencyTable.mem_expand_jointMask _)

/-! ### A choice takes nothing away -/

variable {s s' : ChannelSelection} {f : Frequency} {b : Band}

/-- To ask whether a channel was chosen is to ask whether it is scanned. -/
theorem containsChannel_iff : s.containsChannel f = true ↔ f ∈ s.scanFrequencies := by
  rw [mem_scanFrequencies, FrequencyTable.mem_expand_iff_bandOf?, containsChannel, Bool.or_eq_true,
    Option.any_eq_true, or_comm]
  simp only [decide_eq_true_eq]
  rfl

/-- A selection covers what another one covers. -/
structure Grows (s s' : ChannelSelection) : Prop where
  scan : s.scanFrequencies ⊆ s'.scanFrequencies
  valid : s.validFrequencies ⊆ s'.validFrequencies
  bands : ∀ b, s.containsBand b = true → s'.containsBand b = true
  channels : ∀ f, s.containsChannel f = true → s'.containsChannel f = true

theorem containsBand_or {m : BandMask} (chosen : s.containsBand b = true)
    (wider : s'.mask = s.mask ||| m) : s'.containsBand b = true := by
  have keeps : ∀ own more all : BandMask, own &&& all = all → (own ||| more) &&& all = all := by
    decide
  simp only [containsBand, Bool.and_eq_true, decide_eq_true_eq] at chosen ⊢
  exact ⟨chosen.1, wider ▸ keeps _ _ _ chosen.2⟩

/-- With more sub-bands and more channels a selection covers what it did. -/
theorem grows_of_more {m : BandMask} (table : s'.table = s.table) (policy : s'.policy = s.policy)
    (mask : s'.mask = s.mask ||| m) (channels : ∀ f ∈ s.channels, f ∈ s'.channels) :
    s.Grows s' := by
  have scan : s.scanFrequencies ⊆ s'.scanFrequencies := by
    intro f scanned
    rw [mem_scanFrequencies, table, mask, FrequencyTable.mem_expand_or]
    exact (mem_scanFrequencies.1 scanned).imp Or.inl (channels f)
  constructor
  · exact scan
  · intro g valid
    obtain ⟨f, scanned, believes⟩ := mem_validFrequencies.1 valid
    refine mem_validFrequencies.2 ⟨f, scan f scanned, ?_⟩
    rwa [policy, table]
  · exact fun b chosen => containsBand_or chosen mask
  · intro f chosen
    exact containsChannel_iff.2 (scan f (containsChannel_iff.1 chosen))

theorem grows_apply (s : ChannelSelection) {c : Choice} (adds : c.adds = true) :
    s.Grows (c.apply s) := by
  have same : s.mask = s.mask ||| 0 := (BitVec.or_zero ..).symm
  cases c with
  | band b => exact grows_of_more rfl rfl rfl fun _ member => member
  | channel f =>
    exact grows_of_more rfl rfl same fun _ member => AscendingSet.mem_insert.2 (Or.inr member)
  | channels fs =>
    exact grows_of_more rfl rfl same fun _ member => AscendingSet.mem_union.2 (Or.inr member)
  | clear => cases adds

/-! ### What is remembered -/

/-- Two selections answer every question alike. -/
structure AnswersAs (s s' : ChannelSelection) : Prop where
  scan : s.scanFrequencies = s'.scanFrequencies
  valid : s.validFrequencies = s'.validFrequencies
  band : ∀ b, s.containsBand b = s'.containsBand b
  channel : ∀ f, s.containsChannel f = s'.containsChannel f
  isEmpty : s.isEmpty = s'.isEmpty
  coversTable : s.coversTable = s'.coversTable

theorem ofChoices_answersAs (table : FrequencyTable) (policy : ValidityPolicy)
    {cs cs' : List Choice}
    (bands : Band.jointMask (Choice.bandsOf cs) = Band.jointMask (Choice.bandsOf cs'))
    (channels : ∀ f, f ∈ Choice.channelsOf cs ↔ f ∈ Choice.channelsOf cs') :
    (ofChoices table policy cs).AnswersAs (ofChoices table policy cs') := by
  have sets : AscendingSet.ofList (Choice.channelsOf cs) = .ofList (Choice.channelsOf cs') :=
    AscendingSet.ext_mem fun f => by
      rw [AscendingSet.mem_ofList, AscendingSet.mem_ofList, channels]
  -- The two selections keep the same, and so they are the same.
  have same : ofChoices table policy cs = ofChoices table policy cs' := by
    rw [ofChoices_eq, ofChoices_eq, bands, sets]
  rw [same]
  exact ⟨rfl, rfl, fun _ => rfl, fun _ => rfl, rfl, rfl⟩

end ChannelSelection

/-- What a selection over a table keeps of the choices that made it. -/
structure ChoicesForgotten (table : FrequencyTable) (policy : ValidityPolicy) : Prop where
  /-- The selection scans the bands and the channels chosen since it was last cleared. -/
  scan : ∀ cs, (ChannelSelection.ofChoices table policy cs).scanFrequencies =
    FrequencySet.unions ((Choice.bandsOf cs).map table.ofBand) ∪ .ofList (Choice.channelsOf cs)
  /-- Neither the order of these nor their number matters. -/
  answers : ∀ cs cs', Band.jointMask (Choice.bandsOf cs) = Band.jointMask (Choice.bandsOf cs') →
    (∀ f, f ∈ Choice.channelsOf cs ↔ f ∈ Choice.channelsOf cs') →
      (ChannelSelection.ofChoices table policy cs).AnswersAs
        (ChannelSelection.ofChoices table policy cs')
  grows : ∀ cs (c : Choice), c.adds = true →
    (ChannelSelection.ofChoices table policy cs).Grows
      (ChannelSelection.ofChoices table policy (cs ++ [c]))

/-- Whatever the table and the policy are, a selection forgets the order and the number of its
choices. -/
theorem choices_forgotten (table : FrequencyTable) (policy : ValidityPolicy) :
    ChoicesForgotten table policy where
  scan := ChannelSelection.scanFrequencies_ofChoices table policy
  answers _ _ := ChannelSelection.ofChoices_answersAs table policy
  grows cs c adds := by
    rw [ChannelSelection.ofChoices_concat]
    exact ChannelSelection.grows_apply _ adds

end WifiScan

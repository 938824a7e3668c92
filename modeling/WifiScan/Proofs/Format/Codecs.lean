import WifiScan.Format.Configuration
import WifiScan.Proofs.Json.Codecs

/-!
# The formats are lawful

Every format is put together from codecs that are lawful. What is to be shown of each is that its
fields have different names, and that its rules take what it writes: a set is the set of its
ascending list, and a table is the table of its three sets.
-/
namespace WifiScan

open Json

/-! ### Words -/

namespace Json.Codec

/-- The words of a type without a sign are those that are read. -/
theorem unsigned_lawful {α : Type} {ofInt? : Int → Option α} {ofNat : Nat → α} {toNat : α → Nat}
    {size : Nat} (fit : size ≤ UInt64.size)
    (read : ∀ i, ofInt? i = if 0 ≤ i ∧ i < size then some (ofNat i.toNat) else none)
    (small : ∀ a, toNat a < size) (back : ∀ a, ofNat (toNat a) = a) :
    (integer ofInt? fun a => toNat a).Lawful := by
  have least : Int64.minValue.toInt ≤ 0 := by decide
  refine integer_lawful (fun a => ?_) fun a => ?_
  · have := small a
    constructor <;> omega
  · have bounds : 0 ≤ (toNat a : Int) ∧ (toNat a : Int) < size := by
      have := small a
      omega
    rw [read, if_pos bounds, Int.toNat_natCast, back]

theorem uint8_lawful : uint8.Lawful :=
  unsigned_lawful (by decide) (fun _ => rfl) UInt8.toNat_lt_size fun _ => UInt8.ofNat_toNat

theorem uint32_lawful : uint32.Lawful :=
  unsigned_lawful (by decide) (fun _ => rfl) UInt32.toNat_lt_size fun _ => UInt32.ofNat_toNat

theorem uint64_lawful : uint64.Lawful :=
  unsigned_lawful (Nat.le_refl _) (fun _ => rfl) UInt64.toNat_lt_size fun _ => UInt64.ofNat_toNat

theorem int32_lawful : int32.Lawful := by
  refine integer_lawful (fun n => ?_) fun n => ?_
  · have least : Int64.minValue.toInt ≤ Int32.minValue.toInt := by decide
    have most : Int32.maxValue.toInt < UInt64.size := by decide
    exact ⟨Int.le_trans least n.minValue_le_toInt, Int.lt_of_le_of_lt n.toInt_le most⟩
  · rw [Word.int32?, if_pos ⟨n.minValue_le_toInt, n.toInt_le⟩, Int32.ofInt_toInt]

end Json.Codec

/-! ### Channels -/

theorem Band.codec_lawful : Band.codec.Lawful :=
  Codec.names_lawful fun b => by cases b <;> rfl

theorem ValidityPolicy.codec_lawful : ValidityPolicy.codec.Lawful :=
  Codec.names_lawful fun p => by cases p <;> rfl

theorem FrequencySet.codec_lawful : FrequencySet.codec.Lawful :=
  Codec.refine_lawful (Codec.list_lawful Codec.uint32_lawful) fun fs =>
    congrArg Except.ok fs.ofList_toList

namespace FrequencyTable

/-- No two sub-bands of a table share a frequency. -/
theorem shared?_eq_none (t : FrequencyTable) : shared? t.ghz24 t.ghz5 t.ghz5Dfs = none := by
  simp only [shared?, Option.or_eq_none_iff, List.find?_eq_none, decide_eq_true_eq, not_or]
  exact ⟨t.ghz5_disjoint, t.ghz5Dfs_disjoint⟩

/-- A table is the table of its three sets. -/
theorem ofSets_eq (t : FrequencyTable) : ofSets t.ghz24 t.ghz5 t.ghz5Dfs = .ok t := by
  unfold ofSets
  split
  next f shared => rw [t.shared?_eq_none] at shared; cases shared
  next => rfl

theorem fields_lawful : fields.Lawful where
  parts :=
    ⟨FrequencySet.codec_lawful, FrequencySet.codec_lawful, FrequencySet.codec_lawful, trivial⟩
  distinct := by decide

theorem codec_lawful : codec.Lawful := by
  apply Codec.refine_lawful (Codec.record_lawful fields_lawful fun _ => rfl)
  intro t
  -- Three sets are checked before they become a table, and those of a table pass.
  exact congrArg (Except.mapError _) t.ofSets_eq

end FrequencyTable

/-! ### Requests and results -/

theorem ReportEvents.codec_lawful : ReportEvents.codec.Lawful :=
  Codec.refine_lawful Codec.uint32_lawful fun _ => rfl

theorem BucketChannels.codec_lawful : BucketChannels.codec.Lawful where
  contained := by
    apply Alternative.readAny_contained
    intro a member
    simp only [List.mem_cons, List.not_mem_nil, or_false] at member
    rcases member with rfl | rfl
    · exact Alternative.holding_contained Band.codec_lawful.contained _ _
    · exact Alternative.holding_contained (Codec.list_lawful Codec.uint32_lawful).contained _ _
  back {channels v} form := by
    -- The two alternatives hold values of different types, each with a codec of its own.
    cases channels with
    | band b => exact Codec.holding_back Band.codec_lawful rfl form
    | channels fs => exact Codec.holding_back (Codec.list_lawful Codec.uint32_lawful) rfl form

namespace BucketSettings

theorem fields_lawful : fields.Lawful where
  parts := ⟨Codec.uint32_lawful, ReportEvents.codec_lawful, BucketChannels.codec_lawful, trivial⟩
  distinct := by decide

theorem codec_lawful : codec.Lawful := Codec.record_lawful fields_lawful fun _ => rfl

end BucketSettings

theorem NetworkIds.codec_lawful : NetworkIds.codec.Lawful :=
  Codec.refine_lawful (Codec.list_lawful Codec.int32_lawful) fun ids =>
    congrArg Except.ok ids.ofList_toList

namespace ScanSettings

theorem fields_lawful : fields.Lawful where
  parts :=
    ⟨Codec.uint32_lawful, Codec.uint64_lawful, Codec.list_lawful BucketSettings.codec_lawful,
      NetworkIds.codec_lawful, trivial⟩
  distinct := by decide

theorem codec_lawful : codec.Lawful := Codec.record_lawful fields_lawful fun _ => rfl

end ScanSettings

namespace ScanResult

theorem fields_lawful : fields.Lawful where
  parts :=
    ⟨Codec.text_lawful, Codec.text_lawful, Codec.int32_lawful, Codec.uint32_lawful,
      Codec.uint64_lawful, Codec.text_lawful, Codec.list_lawful Codec.uint8_lawful, trivial⟩
  distinct := by decide

theorem codec_lawful : codec.Lawful := Codec.record_lawful fields_lawful fun _ => rfl

end ScanResult

namespace ScanData

theorem fields_lawful : fields.Lawful where
  parts := ⟨Codec.uint32_lawful, Codec.list_lawful ScanResult.codec_lawful, trivial⟩
  distinct := by decide

theorem codec_lawful : codec.Lawful := Codec.record_lawful fields_lawful fun _ => rfl

end ScanData

/-! ### Settings -/

namespace EngineConfig

theorem fields_lawful : fields.Lawful where
  parts :=
    ⟨Codec.uint64_lawful, Codec.bool_lawful, ValidityPolicy.codec_lawful,
      FrequencyTable.codec_lawful, trivial⟩
  distinct := by decide

theorem codec_lawful : codec.Lawful := Codec.record_lawful fields_lawful fun _ => rfl

end EngineConfig

namespace VirtualAccessPoint

theorem fields_lawful : fields.Lawful where
  parts :=
    ⟨Codec.text_lawful, Codec.text_lawful, Codec.uint32_lawful, Codec.int32_lawful,
      Codec.text_lawful, trivial⟩
  distinct := by decide

theorem codec_lawful : codec.Lawful := Codec.record_lawful fields_lawful fun _ => rfl

end VirtualAccessPoint

namespace VirtualDriverConfig

theorem fields_lawful : fields.Lawful where
  parts := ⟨Codec.text_lawful, Codec.list_lawful VirtualAccessPoint.codec_lawful, trivial⟩
  distinct := by decide

theorem codec_lawful : codec.Lawful := Codec.record_lawful fields_lawful fun _ => rfl

end VirtualDriverConfig

theorem ScanOutcome.codec_lawful : ScanOutcome.codec.Lawful :=
  Codec.names_lawful fun outcome => by cases outcome <;> rfl

namespace RadioConfig

theorem fields_lawful : fields.Lawful where
  parts :=
    ⟨Codec.text_lawful, Codec.uint64_lawful, Codec.list_lawful ScanOutcome.codec_lawful,
      ScanOutcome.codec_lawful, trivial⟩
  distinct := by decide

theorem codec_lawful : codec.Lawful := Codec.record_lawful fields_lawful fun _ => rfl

end RadioConfig

namespace ScanDefaults

theorem fields_lawful : fields.Lawful where
  parts := ⟨Band.codec_lawful, Codec.uint32_lawful, Codec.uint64_lawful, Codec.bool_lawful, trivial⟩
  distinct := by decide

theorem codec_lawful : codec.Lawful := Codec.record_lawful fields_lawful fun _ => rfl

end ScanDefaults

namespace Configuration

theorem fields_lawful : fields.Lawful where
  parts := ⟨EngineConfig.codec_lawful, VirtualDriverConfig.codec_lawful, RadioConfig.codec_lawful,
    ScanDefaults.codec_lawful, trivial⟩
  distinct := by decide

theorem codec_lawful : codec.Lawful := Codec.record_lawful fields_lawful fun _ => rfl

end Configuration

end WifiScan

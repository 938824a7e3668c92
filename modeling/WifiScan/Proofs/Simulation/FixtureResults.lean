import WifiScan.Simulation.Fixtures
import WifiScan.Proofs.Json.Texts
import Mathlib.Data.List.Basic

/-!
# Fixture results are kept apart

## Main result

`fixtures_well_separated`: there is one result for each frequency, in order and with a strength from
-90 to -30 dBm. Two addresses are the same exactly if seeds and indices have the same low 16 bits,
and two names exactly if the seeds are the same and the indices have the same low 32 bits.

## Proof strategy

An address is four octets of two digits each, and two digits can be read back. A name is a seed and
an index with a dash between them, which is no digit. An index is a word of 32 bits, so positions
that far apart share it; below that, a key that tells the low bits of the position apart tells apart
the results of a list (`nodup_map_fixtureResults`).
-/
namespace WifiScan

/-! ### Digits -/

namespace Hex

theorem digitChar_inj {m n : Nat} (hm : m < 16) (hn : n < 16)
    (h : Nat.digitChar m = Nat.digitChar n) : m = n := by
  have back := Json.digitValue?_digitChar m hm
  rw [h, Json.digitValue?_digitChar n hn] at back
  exact (Option.some.inj back).symm

theorem lower_two {n : Nat} (octet : n < 256) :
    lower 2 n = [Nat.digitChar (n / 16), Nat.digitChar (n % 16)] := by
  unfold lower
  by_cases small : n < 16
  · rw [Nat.toDigits_of_lt_base small, Nat.div_eq_of_lt small, Nat.mod_eq_of_lt small]
    rfl
  · have high : n / 16 < 16 := by omega
    rw [Nat.toDigits_eq_if (by omega), if_neg small, Nat.toDigits_of_lt_base high]
    rfl

theorem lower_two_inj {m n : Nat} (hm : m < 256) (hn : n < 256) (h : lower 2 m = lower 2 n) :
    m = n := by
  rw [lower_two hm, lower_two hn] at h
  obtain ⟨high, low⟩ := List.cons.inj h
  have := digitChar_inj (by omega) (by omega) high
  have := digitChar_inj (by omega) (by omega) (List.cons.inj low).1
  omega

end Hex

/-! ### Addresses -/

/-- The digits of the low octet of a word. -/
def octetDigits (n : UInt32) : List Char := Hex.lower 2 (n &&& 0xff).toNat

theorem toNat_low_octet (n : UInt32) : (n &&& 0xff).toNat = n.toNat % 256 :=
  (UInt32.toNat_and ..).trans (Nat.and_two_pow_sub_one_eq_mod n.toNat 8)

theorem toNat_shiftRight_octet (n : UInt32) : (n >>> 8).toNat = n.toNat / 256 :=
  (UInt32.toNat_shiftRight ..).trans (Nat.shiftRight_eq_div_pow n.toNat 8)

theorem length_octetDigits (n : UInt32) : (octetDigits n).length = 2 := by
  rw [octetDigits, Hex.lower_two (by rw [toNat_low_octet]; omega)]
  rfl

theorem octetDigits_inj {m n : UInt32} (h : octetDigits m = octetDigits n) :
    (m &&& 0xff).toNat = (n &&& 0xff).toNat := by
  apply Hex.lower_two_inj _ _ h
  · rw [toNat_low_octet]
    omega
  · rw [toNat_low_octet]
    omega

/-- Both octets of a word are those of its low 16 bits. -/
theorem octets_eq_iff (m n : UInt32) :
    octetDigits (m >>> 8) = octetDigits (n >>> 8) ∧ octetDigits m = octetDigits n ↔
      m.toNat % 65536 = n.toNat % 65536 := by
  constructor
  · rintro ⟨high, low⟩
    have high := octetDigits_inj high
    have low := octetDigits_inj low
    simp only [toNat_low_octet, toNat_shiftRight_octet] at high low
    omega
  · intro same
    have high : m.toNat / 256 % 256 = n.toNat / 256 % 256 := by omega
    have low : m.toNat % 256 = n.toNat % 256 := by omega
    simp only [octetDigits, toNat_low_octet, toNat_shiftRight_octet, high, low, and_self]

theorem fixtureAddress_eq_iff (s t i j : UInt32) :
    fixtureAddress s i = fixtureAddress t j ↔
      i.toNat % 65536 = j.toNat % 65536 ∧ s.toNat % 65536 = t.toNat % 65536 := by
  have octets (n k : UInt32) : fixtureAddress n k = "02:00" ++ String.ofList
      (':' :: octetDigits (n >>> 8) ++ ':' :: octetDigits n ++
        ':' :: octetDigits (k >>> 8) ++ ':' :: octetDigits k) := rfl
  rw [octets, octets, String.append_right_inj, String.ofList_inj, ← octets_eq_iff i j,
    ← octets_eq_iff s t]
  constructor
  · intro same
    -- All octets take two digits, so that the texts agree octet by octet.
    obtain ⟨front, index⟩ := List.append_inj' same (by simp [length_octetDigits])
    obtain ⟨front, indexHigh⟩ := List.append_inj' front (by simp [length_octetDigits])
    obtain ⟨seedHigh, seed⟩ := List.append_inj' front (by simp [length_octetDigits])
    simp only [List.cons.injEq, true_and] at index indexHigh seedHigh seed
    exact ⟨⟨indexHigh, index⟩, seedHigh, seed⟩
  · rintro ⟨⟨indexHigh, index⟩, seedHigh, seed⟩
    rw [indexHigh, index, seedHigh, seed]

/-! ### Names -/

theorem dash_notMem_digits (n : Nat) : '-' ∉ Nat.toDigits 10 n := by
  intro member
  have digit := Nat.isDigit_of_mem_toDigits (by omega) (by omega) member
  revert digit
  decide

theorem fixtureName_eq_iff (s t i j : UInt32) :
    "TEST AP " ++ toString s.toNat ++ "-" ++ toString i.toNat =
        "TEST AP " ++ toString t.toNat ++ "-" ++ toString j.toNat ↔ s = t ∧ i = j := by
  constructor
  · intro same
    have texts := congrArg String.toList same
    simp only [String.append_assoc, String.toList_append, List.append_cancel_left_eq] at texts
    -- The first dash after the digits of the seed ends them.
    have parts : (toString s.toNat).toList ++ '-' :: (toString i.toNat).toList =
        (toString t.toNat).toList ++ '-' :: (toString j.toNat).toList := texts
    have digits (n : Nat) : (toString n).toList = Nat.toDigits 10 n := Nat.toList_repr
    simp only [digits] at parts
    rw [List.append_cons_inj_of_notMem (dash_notMem_digits _) (dash_notMem_digits _)] at parts
    obtain ⟨seed, -, index⟩ := parts
    have back {m n : Nat} (h : Nat.toDigits 10 m = Nat.toDigits 10 n) : m = n := by
      rw [← Nat.ofDigitChars_ten_toDigits (n := m), h, Nat.ofDigitChars_ten_toDigits]
    exact ⟨UInt32.toNat_inj.1 (back seed), UInt32.toNat_inj.1 (back index)⟩
  · rintro ⟨rfl, rfl⟩
    rfl

/-! ### Strengths -/

/-- The strength is -30 dBm less a remainder of the mixed words, whether or not mixing wraps. -/
theorem toInt_fixtureStrength (seed index : UInt32) :
    (fixtureStrength seed index).toInt = -30 - ((seed * 31 + index * 17).toNat % 61 : Nat) := by
  have exact_below : ∀ k < 61, (-30 - Int32.ofNat k).toInt = -30 - (k : Int) := by decide
  have remainder : ((seed * 31 + index * 17) % 61).toNat = (seed * 31 + index * 17).toNat % 61 :=
    UInt32.toNat_mod ..
  rw [fixtureStrength, remainder]
  exact exact_below _ (Nat.mod_lt _ (by omega))

/-! ### Results -/

theorem getElem?_fixtureResults (seed : UInt32) (time : UInt64) (fs : List Frequency) (i : Nat) :
    (fixtureResults seed time fs)[i]? =
      fs[i]?.map fun f => fixtureResult seed time f (.ofNat i) := by
  simp only [fixtureResults, List.getElem?_map, List.getElem?_zipIdx, Option.map_map, Nat.zero_add]
  rfl

theorem length_fixtureResults (seed : UInt32) (time : UInt64) (fs : List Frequency) :
    (fixtureResults seed time fs).length = fs.length := by
  rw [fixtureResults, List.length_map, List.length_zipIdx]

/-- A result is made for the frequency at its position. -/
theorem eq_fixtureResult {seed : UInt32} {time : UInt64} {fs : List Frequency} {i : Nat}
    {r : ScanResult} (found : (fixtureResults seed time fs)[i]? = some r) :
    ∃ f, r = fixtureResult seed time f (.ofNat i) := by
  rw [getElem?_fixtureResults, Option.map_eq_some_iff] at found
  obtain ⟨f, -, rfl⟩ := found
  exact ⟨f, rfl⟩

/-- A key that tells positions apart by a modulus tells apart the results of a list no longer than
the modulus. -/
theorem nodup_map_fixtureResults {β : Type} {seed : UInt32} {time : UInt64} {fs : List Frequency}
    {key : ScanResult → β} {modulus : Nat}
    (apart : ∀ i j r r', (fixtureResults seed time fs)[i]? = some r →
      (fixtureResults seed time fs)[j]? = some r' → key r = key r' → i % modulus = j % modulus)
    (short : fs.length ≤ modulus) : ((fixtureResults seed time fs).map key).Nodup := by
  apply List.pairwise_iff_getElem.2
  intro i j hi hj before same
  simp only [List.length_map] at hi hj
  simp only [List.getElem_map] at same
  have congruent := apart i j _ _ (List.getElem?_eq_getElem hi) (List.getElem?_eq_getElem hj) same
  -- Both positions are below the modulus.
  rw [length_fixtureResults] at hi hj
  rw [Nat.mod_eq_of_lt (by omega), Nat.mod_eq_of_lt (by omega)] at congruent
  omega

/-! ### Separation -/

/-- How the results of a seed and a list of frequencies look, and what keeps them apart from each
other and from those of another seed. -/
structure FixturesSeparated : Prop where
  /-- One result for each frequency, in order. -/
  frequencies : ∀ seed time fs, (fixtureResults seed time fs).map (·.frequency) = fs
  times : ∀ seed time fs, ∀ r ∈ fixtureResults seed time fs, r.timestampUs = time
  strengths : ∀ seed time fs, ∀ r ∈ fixtureResults seed time fs,
    -90 ≤ r.rssi.toInt ∧ r.rssi.toInt ≤ -30
  /-- The results at two positions have the same address exactly if the low 16 bits of positions and
  seeds agree. -/
  addresses : ∀ s t time time' fs gs i j r r', (fixtureResults s time fs)[i]? = some r →
    (fixtureResults t time' gs)[j]? = some r' →
    (r.bssid = r'.bssid ↔ i % 65536 = j % 65536 ∧ s.toNat % 65536 = t.toNat % 65536)
  distinctAddresses : ∀ seed time (fs : List Frequency), fs.length ≤ 65536 →
    ((fixtureResults seed time fs).map (·.bssid)).Nodup
  /-- They have the same name exactly if the seeds are the same and the low 32 bits of the positions
  agree. -/
  names : ∀ s t time time' fs gs i j r r', (fixtureResults s time fs)[i]? = some r →
    (fixtureResults t time' gs)[j]? = some r' →
    (r.ssid = r'.ssid ↔ s = t ∧ i % UInt32.size = j % UInt32.size)
  distinctNames : ∀ seed time (fs : List Frequency), fs.length ≤ UInt32.size →
    ((fixtureResults seed time fs).map (·.ssid)).Nodup
  otherSeeds : ∀ s t time time' fs gs, s ≠ t → ∀ r ∈ fixtureResults s time fs,
    ∀ r' ∈ fixtureResults t time' gs, r.ssid ≠ r'.ssid

theorem fixtureResults_bssid_eq_iff {s t : UInt32} {time time' : UInt64} {fs gs : List Frequency}
    {i j : Nat} {r r' : ScanResult} (left : (fixtureResults s time fs)[i]? = some r)
    (right : (fixtureResults t time' gs)[j]? = some r') :
    r.bssid = r'.bssid ↔ i % 65536 = j % 65536 ∧ s.toNat % 65536 = t.toNat % 65536 := by
  obtain ⟨f, rfl⟩ := eq_fixtureResult left
  obtain ⟨g, rfl⟩ := eq_fixtureResult right
  have low (n : Nat) : (UInt32.ofNat n).toNat % 65536 = n % 65536 := by
    rw [UInt32.toNat_ofNat']
    omega
  have iff := fixtureAddress_eq_iff s t (.ofNat i) (.ofNat j)
  rwa [low, low] at iff

theorem fixtureResults_ssid_eq_iff {s t : UInt32} {time time' : UInt64} {fs gs : List Frequency}
    {i j : Nat} {r r' : ScanResult} (left : (fixtureResults s time fs)[i]? = some r)
    (right : (fixtureResults t time' gs)[j]? = some r') :
    r.ssid = r'.ssid ↔ s = t ∧ i % UInt32.size = j % UInt32.size := by
  obtain ⟨f, rfl⟩ := eq_fixtureResult left
  obtain ⟨g, rfl⟩ := eq_fixtureResult right
  have word : UInt32.ofNat i = UInt32.ofNat j ↔ i % UInt32.size = j % UInt32.size := by
    rw [← UInt32.toNat_inj, UInt32.toNat_ofNat', UInt32.toNat_ofNat']
  exact (fixtureName_eq_iff ..).trans (and_congr_right fun _ => word)

/-- Fixture results are one for each frequency, and seeds and positions keep them apart. -/
theorem fixtures_well_separated : FixturesSeparated where
  frequencies seed time fs := by
    rw [fixtureResults, List.map_map]
    exact List.zipIdx_map_fst 0 fs
  times seed time fs r member := by
    obtain ⟨i, found⟩ := List.mem_iff_getElem?.1 member
    obtain ⟨f, rfl⟩ := eq_fixtureResult found
    rfl
  strengths seed time fs r member := by
    obtain ⟨i, found⟩ := List.mem_iff_getElem?.1 member
    obtain ⟨f, rfl⟩ := eq_fixtureResult found
    have strength := toInt_fixtureStrength seed (.ofNat i)
    change -90 ≤ (fixtureStrength _ _).toInt ∧ (fixtureStrength _ _).toInt ≤ -30
    omega
  addresses _ _ _ _ _ _ _ _ _ _ left right := fixtureResults_bssid_eq_iff left right
  distinctAddresses seed time fs short := by
    apply nodup_map_fixtureResults _ short
    intro i j r r' left right same
    exact ((fixtureResults_bssid_eq_iff left right).1 same).1
  names _ _ _ _ _ _ _ _ _ _ left right := fixtureResults_ssid_eq_iff left right
  distinctNames seed time fs short := by
    apply nodup_map_fixtureResults _ short
    intro i j r r' left right same
    exact ((fixtureResults_ssid_eq_iff left right).1 same).2
  otherSeeds s t time time' fs gs other r member r' member' same := by
    obtain ⟨i, left⟩ := List.mem_iff_getElem?.1 member
    obtain ⟨j, right⟩ := List.mem_iff_getElem?.1 member'
    exact other ((fixtureResults_ssid_eq_iff left right).1 same).1

end WifiScan

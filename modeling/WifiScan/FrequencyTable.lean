import WifiScan.AscendingSet
import WifiScan.Band

/-!
# Frequency tables

Which frequencies each sub-band holds. No frequency lies in two sub-bands, so a frequency of the
table has one sub-band (`bandOf?`), and a table is built from three lists exactly when they are
disjoint.
-/
namespace WifiScan

abbrev FrequencySet := AscendingSet Frequency

/-- The frequencies of the three sub-bands, which are pairwise disjoint. -/
structure FrequencyTable where
  ghz24 : FrequencySet
  ghz5 : FrequencySet
  ghz5Dfs : FrequencySet
  ghz5_disjoint : ∀ f ∈ ghz5.toList, f ∉ ghz24
  ghz5Dfs_disjoint : ∀ f ∈ ghz5Dfs.toList, f ∉ ghz24 ∧ f ∉ ghz5

namespace FrequencyTable

theorem ext {s t : FrequencyTable} (h₁ : s.ghz24 = t.ghz24) (h₂ : s.ghz5 = t.ghz5)
    (h₃ : s.ghz5Dfs = t.ghz5Dfs) : s = t := by
  cases s; cases t; cases h₁; cases h₂; cases h₃; rfl

instance : DecidableEq FrequencyTable := fun s t =>
  decidable_of_iff (s.ghz24 = t.ghz24 ∧ s.ghz5 = t.ghz5 ∧ s.ghz5Dfs = t.ghz5Dfs)
    ⟨fun h => ext h.1 h.2.1 h.2.2, fun h => h ▸ ⟨rfl, rfl, rfl⟩⟩

/-- A frequency that two of three sub-bands share: the least one common to the first two, or else
the least one of the third that lies in one of them. -/
def shared? (ghz24 ghz5 ghz5Dfs : FrequencySet) : Option Frequency :=
  (ghz5.toList.find? (· ∈ ghz24)).or (ghz5Dfs.toList.find? fun f => f ∈ ghz24 ∨ f ∈ ghz5)

theorem disjoint_of_shared?_eq_none {a b c : FrequencySet} (h : shared? a b c = none) :
    (∀ f ∈ b.toList, f ∉ a) ∧ ∀ f ∈ c.toList, f ∉ a ∧ f ∉ b := by
  simp only [shared?, Option.or_eq_none_iff, List.find?_eq_none, decide_eq_true_eq, not_or] at h
  exact h

/-- The table of three sets, unless two of them share a frequency. -/
def ofSets (ghz24 ghz5 ghz5Dfs : FrequencySet) : Except ChannelError FrequencyTable :=
  match h : shared? ghz24 ghz5 ghz5Dfs with
  | some f => .error (.overlappingBands f)
  | none =>
    .ok ⟨ghz24, ghz5, ghz5Dfs, (disjoint_of_shared?_eq_none h).1, (disjoint_of_shared?_eq_none h).2⟩

/-- The table of three lists; their order and repeats inside one list do not matter. -/
def ofLists (ghz24 ghz5 ghz5Dfs : List Frequency) : Except ChannelError FrequencyTable :=
  ofSets (.ofList ghz24) (.ofList ghz5) (.ofList ghz5Dfs)

/-! ### The common regulatory plan -/

def standard24 : FrequencySet :=
  .ofList [2412, 2417, 2422, 2427, 2432, 2437, 2442, 2447, 2452, 2457, 2462, 2467, 2472]

def standard5 : FrequencySet :=
  .ofList [5180, 5200, 5220, 5240, 5745, 5765, 5785, 5805, 5825]

def standard5Dfs : FrequencySet :=
  .ofList [5260, 5280, 5300, 5320, 5500, 5520, 5540, 5560, 5580, 5600, 5620, 5640, 5660, 5680, 5700,
    5720]

theorem shared?_standard : shared? standard24 standard5 standard5Dfs = none := by decide +kernel

/-- The table of the common regulatory plan. -/
def standard : FrequencyTable where
  ghz24 := standard24
  ghz5 := standard5
  ghz5Dfs := standard5Dfs
  ghz5_disjoint := (disjoint_of_shared?_eq_none shared?_standard).1
  ghz5Dfs_disjoint := (disjoint_of_shared?_eq_none shared?_standard).2

instance : Inhabited FrequencyTable := ⟨standard⟩

def expand (t : FrequencyTable) (m : BandMask) : FrequencySet :=
  (if m[0] then t.ghz24 else ∅) ∪ (if m[1] then t.ghz5 else ∅) ∪ (if m[2] then t.ghz5Dfs else ∅)

def ofBand (t : FrequencyTable) (b : Band) : FrequencySet := t.expand b.mask

def frequencies (t : FrequencyTable) : FrequencySet := t.ofBand .bothWithDfs

def bandOf? (t : FrequencyTable) (f : Frequency) : Option Band :=
  if f ∈ t.ghz24 then some .ghz24
  else if f ∈ t.ghz5 then some .ghz5
  else if f ∈ t.ghz5Dfs then some .ghz5DfsOnly
  else none

end FrequencyTable

end WifiScan

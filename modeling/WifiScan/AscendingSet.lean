/-!
# Ascending sets

Finite sets over a linear order, kept as strictly ascending lists. Two sets with the same members
are the same value (`ext_mem`), so a set can be compared, printed and walked in one way only.
-/
namespace WifiScan

/-- A finite set: its members in strictly ascending order. -/
structure AscendingSet (α : Type) [LT α] where
  toList : List α
  ascending : toList.Pairwise (· < ·)

namespace AscendingSet

section Basic

variable {α : Type} [LT α]

theorem ext {s t : AscendingSet α} (h : s.toList = t.toList) : s = t := by
  cases s; cases t; cases h; rfl

instance [DecidableEq α] : DecidableEq (AscendingSet α) := fun s t =>
  decidable_of_iff (s.toList = t.toList) ⟨ext, fun h => h ▸ rfl⟩

def empty : AscendingSet α := ⟨[], .nil⟩

instance : EmptyCollection (AscendingSet α) := ⟨empty⟩

instance : Inhabited (AscendingSet α) := ⟨∅⟩

instance : Membership α (AscendingSet α) := ⟨fun s x => x ∈ s.toList⟩

instance [DecidableEq α] (x : α) (s : AscendingSet α) : Decidable (x ∈ s) :=
  inferInstanceAs (Decidable (x ∈ s.toList))

instance : HasSubset (AscendingSet α) := ⟨fun s t => ∀ x ∈ s.toList, x ∈ t⟩

instance [DecidableEq α] (s t : AscendingSet α) : Decidable (s ⊆ t) :=
  inferInstanceAs (Decidable (∀ x ∈ s.toList, x ∈ t))

def isEmpty (s : AscendingSet α) : Bool := s.toList.isEmpty

@[simp] theorem mem_toList {x : α} {s : AscendingSet α} : x ∈ s.toList ↔ x ∈ s := Iff.rfl

@[simp] theorem toList_empty : (∅ : AscendingSet α).toList = [] := rfl

@[simp] theorem not_mem_empty {x : α} : x ∉ (∅ : AscendingSet α) := List.not_mem_nil

theorem subset_iff {s t : AscendingSet α} : s ⊆ t ↔ ∀ x ∈ s, x ∈ t := Iff.rfl

end Basic

section Ordered

variable {α : Type} [LT α] [DecidableEq α] [DecidableLT α]

/-- Puts `x` at its place in an ascending list; a member that is there already is not repeated. -/
def place (x : α) : List α → List α
  | [] => [x]
  | y :: ys => if x < y then x :: y :: ys else if x = y then y :: ys else y :: place x ys

theorem mem_place {x z : α} {l : List α} : z ∈ place x l ↔ z = x ∨ z ∈ l := by
  induction l with
  | nil => simp [place]
  | cons y ys ih =>
    unfold place
    split
    · simp
    · split
      next h => subst h; simp
      next => simp [ih]; grind

variable [LE α] [Std.IsLinearOrder α] [Std.LawfulOrderLT α]

theorem pairwise_place {x : α} {l : List α} (h : l.Pairwise (· < ·)) :
    (place x l).Pairwise (· < ·) := by
  induction l with
  | nil => simp [place]
  | cons y ys ih =>
    rw [List.pairwise_cons] at h
    unfold place
    split
    next hxy =>
      refine List.pairwise_cons.2 ⟨fun z hz => ?_, List.pairwise_cons.2 h⟩
      rcases List.mem_cons.1 hz with rfl | hz
      · exact hxy
      · exact Std.lt_trans hxy (h.1 z hz)
    next hxy =>
      split
      next => exact List.pairwise_cons.2 h
      next hne =>
        refine List.pairwise_cons.2 ⟨fun z hz => ?_, ih h.2⟩
        rcases mem_place.1 hz with rfl | hz
        · exact Std.lt_of_le_of_ne (Std.not_lt.1 hxy) (Ne.symm hne)
        · exact h.1 z hz

def insert (x : α) (s : AscendingSet α) : AscendingSet α :=
  ⟨place x s.toList, pairwise_place s.ascending⟩

/-- The set of the members of a list, whatever their order and number. -/
def ofList (l : List α) : AscendingSet α := l.foldr insert ∅

def union (s t : AscendingSet α) : AscendingSet α := s.toList.foldr insert t

instance : Union (AscendingSet α) := ⟨union⟩

@[simp] theorem mem_insert {x z : α} {s : AscendingSet α} : z ∈ s.insert x ↔ z = x ∨ z ∈ s :=
  mem_place

private theorem mem_foldr_insert {x : α} {l : List α} {s : AscendingSet α} :
    x ∈ l.foldr insert s ↔ x ∈ l ∨ x ∈ s := by
  induction l with
  | nil => simp
  | cons y ys ih => simp [ih, or_assoc]

@[simp] theorem mem_ofList {x : α} {l : List α} : x ∈ ofList l ↔ x ∈ l := by
  simp [ofList, mem_foldr_insert]

@[simp] theorem mem_union {x : α} {s t : AscendingSet α} : x ∈ s ∪ t ↔ x ∈ s ∨ x ∈ t :=
  mem_foldr_insert

omit [DecidableEq α] [DecidableLT α] in
private theorem toList_eq_of_mem_iff {l m : List α} (hl : l.Pairwise (· < ·))
    (hm : m.Pairwise (· < ·)) (h : ∀ x, x ∈ l ↔ x ∈ m) : l = m := by
  induction l generalizing m with
  | nil =>
    cases m with
    | nil => rfl
    | cons y ys => exact absurd ((h y).2 (List.mem_cons_self ..)) List.not_mem_nil
  | cons x xs ih =>
    cases m with
    | nil => exact absurd ((h x).1 (List.mem_cons_self ..)) List.not_mem_nil
    | cons y ys =>
      rw [List.pairwise_cons] at hl hm
      have hxy : x = y := by
        rcases List.mem_cons.1 ((h x).1 (List.mem_cons_self ..)) with e | hx
        · exact e
        · rcases List.mem_cons.1 ((h y).2 (List.mem_cons_self ..)) with e | hy
          · exact e.symm
          · exact absurd (Std.lt_trans (hl.1 y hy) (hm.1 x hx)) Std.lt_irrefl
      subst hxy
      congr 1
      refine ih hl.2 hm.2 fun z => ⟨fun hz => ?_, fun hz => ?_⟩
      · rcases List.mem_cons.1 ((h z).1 (List.mem_cons_of_mem _ hz)) with rfl | hz'
        · exact absurd (hl.1 z hz) Std.lt_irrefl
        · exact hz'
      · rcases List.mem_cons.1 ((h z).2 (List.mem_cons_of_mem _ hz)) with rfl | hz'
        · exact absurd (hm.1 z hz) Std.lt_irrefl
        · exact hz'

omit [DecidableEq α] [DecidableLT α] in
theorem ext_mem {s t : AscendingSet α} (h : ∀ x, x ∈ s ↔ x ∈ t) : s = t :=
  ext (toList_eq_of_mem_iff s.ascending t.ascending h)

/-- An ascending set is the set of its own list of members. -/
theorem ofList_toList (s : AscendingSet α) : ofList s.toList = s :=
  ext_mem fun x => by simp

end Ordered

end AscendingSet

end WifiScan

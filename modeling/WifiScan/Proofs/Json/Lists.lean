import WifiScan.Proofs.Json.Outcomes

/-!
# Reading a list item by item

What is read of a list is what its items are decoded as one after another, or the fault of the first
that is refused (`Codec.list_yields`). An item is read in the list as it is by itself, since what a
contained reader makes of it does not depend on the comma or the bracket that follows.
-/
namespace WifiScan.Json

variable {α : Type}

/-! ### Items -/

theorem ItemsText.length_lt {vs : List (List Char)} {cs : List Char}
    (layout : ItemsText false vs cs) : vs.length < cs.length := by
  induction vs generalizing cs with
  | nil => exact layout.length_pos
  | cons v vs ih =>
    cases layout with
    | cons gap items =>
      have := ih items
      -- A comma stands before the item.
      cases gap with
      | next before after =>
        simp only [List.length_cons, List.length_append]
        omega

theorem ItemsText.length_le {vs : List (List Char)} {cs : List Char}
    (layout : ItemsText true vs cs) : vs.length ≤ cs.length := by
  cases layout with
  | nil => simp
  | cons gap items =>
    have := items.length_lt
    simp only [List.length_cons, List.length_append]
    omega

theorem nextItem_nil {w : List Char} (first : Bool) (blank : Blank w) (rest : List Char) :
    nextItem first (w ++ ']' :: rest) = .ok none := by
  simp only [nextItem, skipBlanks_blank blank (c := ']') rfl]

theorem nextItem_value {first : Bool} {w v : List Char} (gap : Gap first w) (value : ValueText v)
    (more : List Char) : nextItem first (w ++ (v ++ more)) = .ok (some (v ++ more)) := by
  obtain ⟨c, t, rfl, solid, open_⟩ := value.starts
  cases gap with
  | first blank =>
    simp only [nextItem, List.cons_append, skipBlanks_blank blank solid, if_true]
  | next before after =>
    -- No bracket may close a list right after a comma, but an item does not start with one.
    simp [nextItem, skipBlanks_blank before (c := ',') rfl, skipBlanks_blank after solid, open_]

theorem closeList_blank {w : List Char} (blank : Blank w) (rest : List Char) :
    closeList (w ++ ']' :: rest) = .ok rest := by
  simp only [closeList, skipBlanks_blank blank (c := ']') rfl]

/-! ### Whole lists -/

theorem readItems_items {c : Codec α} (contained : Contained c.read) {vs : List (List Char)}
    {first : Bool} {cs : List Char} (layout : ItemsText first vs cs)
    (items : ∀ v ∈ vs, ValueText v) {fuel : Nat} (enough : vs.length < fuel) (more : List Char) :
    ∃ w, Blank w ∧ readItems c.read fuel first (cs ++ more) =
      (vs.mapM c.valueOf).map fun as => (as, w ++ ']' :: more) := by
  induction vs generalizing first cs fuel with
  | nil =>
    obtain ⟨fuel, rfl⟩ := Nat.exists_eq_add_one.2 (Nat.zero_lt_of_lt enough)
    cases layout with
    | @nil _ w blank =>
      refine ⟨w, blank, ?_⟩
      simp only [List.append_assoc, List.cons_append, List.nil_append, readItems,
        nextItem_nil first blank]
      rfl
  | cons v vs ih =>
    obtain ⟨fuel, rfl⟩ := Nat.exists_eq_add_one.2 (Nat.zero_lt_of_lt enough)
    have value := items v List.mem_cons_self
    cases layout with
    | @cons _ _ _ cs _ gap others =>
      obtain ⟨w, blank, read⟩ := ih others
        (fun u member => items u (List.mem_cons_of_mem _ member)) (Nat.lt_of_succ_lt_succ enough)
      have item : c.read (v ++ (cs ++ more)) = (c.valueOf v).map fun a => (a, cs ++ more) :=
        contained.yields value [] _ blank_nil (others.ends more)
      refine ⟨w, blank, ?_⟩
      simp only [List.append_assoc, readItems, nextItem_value gap value, item, List.mapM_cons]
      -- The first item that is refused gives its fault.
      cases c.valueOf v with
      | error fault => rfl
      | ok a =>
        simp only [Except.map, bind, Except.bind, read]
        cases vs.mapM c.valueOf <;> rfl

/-- A list is read item by item. -/
theorem Codec.list_yields {c : Codec α} (contained : Contained c.read) {vs : List (List Char)}
    {cs : List Char} (layout : ItemsText true vs cs) (items : ∀ v ∈ vs, ValueText v) :
    Yields (Codec.list c).read ('[' :: cs) (vs.mapM c.valueOf) := by
  intro w more blank _
  have enough : vs.length < (cs ++ more).length + 1 := by
    have := layout.length_le
    simp only [List.length_append]
    omega
  obtain ⟨w', blank', read⟩ := readItems_items contained layout items enough more
  simp only [list, readList, List.cons_append, skipBlanks_blank blank (c := '[') rfl, read]
  cases vs.mapM c.valueOf with
  | error fault => rfl
  | ok as =>
    simp only [Except.map, bind, Except.bind, closeList_blank blank', pure, Except.pure]

theorem Codec.list_contained {c : Codec α} (contained : Contained c.read) :
    Contained (Codec.list c).read := by
  intro v value
  obtain ⟨d, t, rfl, -⟩ := value.starts
  by_cases own : d = '['
  · subst own
    obtain ⟨vs, layout, items⟩ := value.of_bracket
    exact ⟨_, list_yields contained layout items⟩
  · apply yields_misfit value
    intro w more blank
    simp only [list, readList]
    rw [skipBlanks_value value blank]
    simp only [List.cons_append]
    split
    next same => exact absurd (List.cons.inj same).1 own
    next => rfl

end WifiScan.Json

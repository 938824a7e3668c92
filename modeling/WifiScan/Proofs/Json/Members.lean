import WifiScan.Proofs.Json.Lists

/-!
# Reading a record member by member

What is read of an object is what its members come to one after another: each puts the value of its
text into the draft of the record, and the draft is finished in the end (`Fields.object_yields`).
What is read of a list is what its items come to in the order of the fields (`Fields.list_yields`).
In both a value is what its text is decoded as by itself, so that a record is contained if its
fields are.
-/
namespace WifiScan.Json

variable {α ρ : Type}

theorem nextName_nil {w : List Char} (first : Bool) (blank : Blank w) (rest : List Char) :
    nextName first (w ++ '}' :: rest) = .ok none := by
  simp only [nextName, skipBlanks_blank blank (c := '}') rfl]

theorem nextName_gap {first : Bool} {w : List Char} (gap : Gap first w) (cs : List Char) :
    nextName first (w ++ '"' :: cs) =
      (readChars .plain cs).map fun (k, rest) => some (String.ofList k, rest) := by
  cases gap with
  | first blank => simp only [nextName, skipBlanks_blank blank (c := '"') rfl, if_true]
  | next before after =>
    simp only [nextName, List.append_assoc, List.cons_append,
      skipBlanks_blank before (c := ',') rfl, skipBlanks_blank after (c := '"') rfl,
      Bool.false_eq_true, if_false]

theorem nextName_name {first : Bool} {k w : List Char} (gap : Gap first w) (name : QuotedText k)
    (more : List Char) :
    nextName first (w ++ '"' :: (k ++ more)) = (nameOf k).map fun n => some (n, more) := by
  have read := congrArg (Except.map some) (readChars_name name more)
  rw [nextName_gap gap]
  cases h : readChars .plain (k ++ more) <;> cases h' : nameOf k <;>
    simp_all [Except.map]

/-- Each member takes a quote and a colon. -/
theorem MembersText.length_lt {first : Bool} {kvs : List (List Char × List Char)} {cs : List Char}
    (layout : MembersText first kvs cs) : kvs.length < cs.length := by
  induction layout with
  | nil => simp
  | cons _ _ _ _ _ ih =>
    simp only [List.length_cons, List.length_append]
    omega

namespace Fields

def names : {ρ : Type} → Fields ρ → List String
  | _, .done => []
  | _, .field name _ _ rest => name :: rest.names

/-- The codecs of all fields are contained. -/
def ContainedParts : {ρ : Type} → Fields ρ → Prop
  | _, .done => True
  | _, .field _ codec _ rest => Contained codec.read ∧ rest.ContainedParts

/-! ### Members -/

/-- Puts the value of a member into a draft. A member that is named as no field changes nothing. -/
def take : {ρ : Type} → (fs : Fields ρ) → String → List Char → fs.Draft → Except Fault fs.Draft
  | _, .done => fun _ _ d => .ok d
  | _, @Fields.field α _ name codec _ rest => fun k v (d : Option α × rest.Draft) =>
    if k = name then
      match d.1 with
      | some _ => .error .mismatch
      | none => (codec.valueOf v).map fun a => ((some a, d.2) : Option α × rest.Draft)
    else (rest.take k v d.2).map fun d' => ((d.1, d') : Option α × rest.Draft)

/-- Puts the values of members, given with the texts of their names, into a draft. -/
def takeAll (fs : Fields ρ) (d : fs.Draft) : List (List Char × List Char) → Except Fault fs.Draft
  | [] => .ok d
  | (k, v) :: kvs => do
    let name ← nameOf k
    fs.takeAll (← fs.take name v d) kvs

theorem take_other {fs : Fields ρ} {k : String} (other : k ∉ fs.names) (v : List Char)
    (d : fs.Draft) : fs.take k v d = .ok d := by
  induction fs with
  | done => rfl
  | field name codec fallback rest ih =>
    obtain ⟨own, d⟩ := d
    simp only [names, List.mem_cons, not_or] at other
    simp only [take, other.1, if_false, ih other.2]
    rfl

theorem readMember_other {fs : Fields ρ} {k : String} (other : k ∉ fs.names) (d : fs.Draft)
    (cs : List Char) : fs.readMember k d cs = .ok none := by
  induction fs with
  | done => rfl
  | field name codec fallback rest ih =>
    obtain ⟨own, d⟩ := d
    simp only [names, List.mem_cons, not_or] at other
    simp only [readMember, other.1, if_false, ih other.2]
    rfl

theorem readMember_own {fs : Fields ρ} (parts : fs.ContainedParts) {k : String}
    (own : k ∈ fs.names) {before after v more : List Char} (left : Blank before)
    (right : Blank after) (value : ValueText v) (ends : Ends more) (d : fs.Draft) :
    fs.readMember k d (before ++ ':' :: (after ++ (v ++ more))) =
      (fs.take k v d).map fun d' => some (d', more) := by
  induction fs with
  | done => cases own
  | field name codec fallback rest ih =>
    obtain ⟨contained, others⟩ := parts
    obtain ⟨held, d⟩ := d
    by_cases same : k = name
    · -- A field that has its value does not look at the text.
      cases held with
      | some a => simp only [readMember, take, same, if_true, Except.map]
      | none =>
        simp only [readMember, take, same, if_true, skipColon,
          skipBlanks_blank left (c := ':') rfl, contained.yields value after more right ends, bind,
          Except.bind]
        cases codec.valueOf v <;> rfl
    · have own : k ∈ rest.names := (List.mem_cons.1 own).resolve_left same
      simp only [readMember, take, same, if_false, ih others own d]
      cases rest.take k v d <;> rfl

/-- The members are read to what they come to one after another. -/
theorem readMembers_members {fs : Fields ρ} (parts : fs.ContainedParts)
    {kvs : List (List Char × List Char)} {first : Bool} {cs : List Char}
    (layout : MembersText first kvs cs) (values : ∀ kv ∈ kvs, ValueText kv.2) {fuel : Nat}
    (enough : kvs.length < fuel) (d : fs.Draft) (more : List Char) :
    ∃ w, Blank w ∧ fs.readMembers fuel first d (cs ++ more) =
      (fs.takeAll d kvs).map fun d' => (d', w ++ '}' :: more) := by
  induction kvs generalizing first cs fuel d with
  | nil =>
    obtain ⟨fuel, rfl⟩ := Nat.exists_eq_add_one.2 (Nat.zero_lt_of_lt enough)
    cases layout with
    | @nil _ w blank =>
      refine ⟨w, blank, ?_⟩
      simp only [List.append_assoc, List.cons_append, List.nil_append, readMembers,
        nextName_nil first blank, takeAll, Except.map]
  | cons kv kvs ih =>
    obtain ⟨fuel, rfl⟩ := Nat.exists_eq_add_one.2 (Nat.zero_lt_of_lt enough)
    have otherValues : ∀ kv ∈ kvs, ValueText kv.2 := fun u member =>
      values u (List.mem_cons_of_mem _ member)
    cases layout with
    | @cons _ k v w before after cs _ gap name left right others =>
      have value : ValueText v := values (k, v) List.mem_cons_self
      have ends := others.ends more
      have named := nextName_name gap name (before ++ ':' :: (after ++ (v ++ (cs ++ more))))
      have ih (d : fs.Draft) := ih others otherValues (Nat.lt_of_succ_lt_succ enough) d
      simp only [List.append_assoc, List.cons_append, readMembers, named, takeAll]
      cases nameOf k with
      | error fault => exact ⟨[], blank_nil, rfl⟩
      | ok n =>
        by_cases own : n ∈ fs.names
        · simp only [Except.map, bind, Except.bind, readMember_own parts own left right value ends]
          cases fs.take n v d with
          | error fault => exact ⟨[], blank_nil, rfl⟩
          | ok d' => exact ih d'
        · -- The value of a member that no field asks for is skipped.
          simp only [Except.map, bind, Except.bind, readMember_other own, take_other own, skipColon,
            skipBlanks_blank left (c := ':') rfl, skipValue_value value right ends]
          exact ih d

/-- An object is read as the record that its members come to. -/
theorem object_yields {fs : Fields ρ} (parts : fs.ContainedParts)
    {kvs : List (List Char × List Char)} {cs : List Char} (layout : MembersText true kvs cs)
    (values : ∀ kv ∈ kvs, ValueText kv.2) :
    Yields fs.read ('{' :: cs) ((fs.takeAll fs.blank kvs).bind fs.finish) := by
  intro w more blank _
  have enough : kvs.length < (cs ++ more).length + 1 := by
    have := layout.length_lt
    simp only [List.length_append]
    omega
  obtain ⟨w', blank', read⟩ := readMembers_members parts layout values enough fs.blank more
  simp only [Fields.read, List.cons_append, skipBlanks_blank blank (c := '{') rfl, read]
  cases fs.takeAll fs.blank kvs with
  | error fault => rfl
  | ok d =>
    simp only [Except.map, bind, Except.bind]
    cases fs.finish d with
    | error fault => rfl
    | ok r =>
      simp only [closeObject, skipBlanks_blank blank' (c := '}') rfl, pure, Except.pure]

/-! ### Items -/

/-- The record that items come to in the order of the fields. -/
def takeInOrder : {ρ : Type} → Fields ρ → List (List Char) → Except Fault ρ
  | _, .done, [] => .ok ()
  | _, .done, _ :: _ => .error .malformed
  | _, .field _ codec _ rest, v :: vs => do
    let a ← codec.valueOf v
    return (a, ← rest.takeInOrder vs)
  | _, .field _ _ fallback rest, [] => do
    let a ← fallback.elim (.error .mismatch) .ok
    return (a, ← rest.takeInOrder [])

/-- What comes after the last field has to be the closing bracket. -/
theorem closeList_items {vs : List (List Char)} {first : Bool} {cs : List Char}
    (layout : ItemsText first vs cs) (items : ∀ v ∈ vs, ValueText v) (more : List Char) :
    closeList (cs ++ more) = if vs = [] then .ok more else .error .malformed := by
  cases layout with
  | nil blank =>
    simp only [List.append_assoc, List.cons_append, List.nil_append, closeList_blank blank, if_true]
  | @cons _ v w cs vs gap others =>
    cases gap with
    | first blank =>
      -- An item stands where the bracket should, and does not start with one.
      have value := items v List.mem_cons_self
      rw [List.append_assoc, List.append_assoc, closeList, skipBlanks_value value blank]
      obtain ⟨c, t, rfl, -, open_⟩ := value.starts
      simp only [List.cons_append, reduceCtorEq, if_false]
      split
      next same => cases same
      next same => exact absurd (List.cons.inj same).1 open_
      next => rfl
    | next before after =>
      simp only [List.append_assoc, List.cons_append, closeList,
        skipBlanks_blank before (c := ',') rfl, reduceCtorEq, if_false]
      rfl

/-- A value before the items that are read in order. -/
theorem attach_closed {β : Type} (a : α) {read : Except Fault (β × List Char)}
    {out : Except Fault β} {more : List Char}
    (others : (do
      let (r, rest) ← read
      return (r, ← closeList rest)) = out.map fun r => (r, more)) :
    (do
      let (r, rest) ← (do
        let (r, rest) ← read
        return ((a, r), rest))
      return (r, ← closeList rest)) =
      (do return (a, ← out) : Except Fault (α × β)).map fun r => (r, more) := by
  -- A fault is the same fault, whether it is found before the value is attached or after.
  cases read with
  | error fault =>
    cases out with
    | error fault' => cases others; rfl
    | ok r => cases others
  | ok next =>
    obtain ⟨r, rest⟩ := next
    simp only [bind, Except.bind, pure, Except.pure] at others ⊢
    cases closed : closeList rest with
    | error fault =>
      rw [closed] at others
      cases out with
      | error fault' => cases others; rfl
      | ok r => cases others
    | ok rest' =>
      rw [closed] at others
      cases out with
      | error fault' => cases others
      | ok r => cases others; rfl

theorem readInOrder_items {fs : Fields ρ} (parts : fs.ContainedParts) {vs : List (List Char)}
    {first : Bool} {cs : List Char} (layout : ItemsText first vs cs)
    (items : ∀ v ∈ vs, ValueText v) (more : List Char) :
    (do
      let (r, rest) ← fs.readInOrder first (cs ++ more)
      return (r, ← closeList rest)) = (fs.takeInOrder vs).map fun r => (r, more) := by
  induction fs generalizing vs first cs with
  | done =>
    simp only [readInOrder, bind, Except.bind, closeList_items layout items]
    cases vs <;> rfl
  | field name codec fallback rest ih =>
    obtain ⟨contained, others⟩ := parts
    cases layout with
    | @nil _ w blank =>
      -- The items are over, and so this field and those after it take their fallbacks.
      have ih := ih others (@ItemsText.nil first _ blank) (by simp)
      simp only [List.append_assoc, List.cons_append, List.nil_append] at ih
      simp only [List.append_assoc, List.cons_append, List.nil_append, readInOrder,
        nextItem_nil first blank, takeInOrder]
      cases fallback with
      | none => rfl
      | some a => exact attach_closed a ih
    | @cons _ v w cs vs gap layout =>
      -- The next item is that of this field.
      have ih := ih others layout fun u member => items u (List.mem_cons_of_mem _ member)
      have value : ValueText v := items v List.mem_cons_self
      have item : codec.read (v ++ (cs ++ more)) = (codec.valueOf v).map fun a => (a, cs ++ more) :=
        contained.yields value [] _ blank_nil (layout.ends more)
      simp only [List.append_assoc, readInOrder, nextItem_value gap value, takeInOrder]
      cases decoded : codec.valueOf v with
      | error fault =>
        rw [decoded] at item
        simp only [item, bind, Except.bind, Except.map]
      | ok a =>
        rw [decoded] at item
        simp only [item, bind, Except.bind, Except.map]
        exact attach_closed a ih

/-- A list is read as the record that its items come to in order. -/
theorem list_yields {fs : Fields ρ} (parts : fs.ContainedParts) {vs : List (List Char)}
    {cs : List Char} (layout : ItemsText true vs cs) (items : ∀ v ∈ vs, ValueText v) :
    Yields fs.read ('[' :: cs) (fs.takeInOrder vs) := by
  intro w more blank _
  simp only [Fields.read, List.cons_append, skipBlanks_blank blank (c := '[') rfl]
  exact readInOrder_items parts layout items more

theorem read_contained {fs : Fields ρ} (parts : fs.ContainedParts) : Contained fs.read := by
  intro v value
  obtain ⟨c, t, rfl, -⟩ := value.starts
  by_cases inOrder : c = '['
  · subst inOrder
    obtain ⟨vs, layout, items⟩ := value.of_bracket
    exact ⟨_, list_yields parts layout items⟩
  by_cases byName : c = '{'
  · subst byName
    obtain ⟨kvs, layout, values⟩ := value.of_brace
    exact ⟨_, object_yields parts layout values⟩
  · apply yields_misfit value
    intro w more blank
    rw [Fields.read, skipBlanks_value value blank]
    simp only [List.cons_append]
    split
    next same => exact absurd (List.cons.inj same).1 inOrder
    next same => exact absurd (List.cons.inj same).1 byName
    next => rfl

end Fields

theorem Codec.record_contained {fs : Fields ρ} (parts : fs.ContainedParts) (build : ρ → α)
    (split : α → ρ) : Contained (Codec.record fs build split).read := by
  intro v value
  obtain ⟨out, yields⟩ := fs.read_contained parts value
  refine ⟨_, yields.bind (fun r => .ok (build r)) fun cs => ?_⟩
  simp only [record]
  cases fs.read cs <;> rfl

end WifiScan.Json

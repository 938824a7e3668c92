import WifiScan.Proofs.Json.Outcomes
import WifiScan.Proofs.Json.Texts
import Mathlib.Data.List.Forall2

/-!
# Written forms are well-formed values

## Main result

`Written.form`: a text that starts with a written form of a value is a well-formed value and the
text that follows it. So whatever holds of the values that are read holds of what was written: a
list is one of the forms of its items, and an object is one of the forms of its members, under the
names that are read of it (`Form.list`, `Form.object`).

## Proof strategy

The proof follows the written form from the left and cuts the text after each item and member. Each
writer keeps to the grammar: digits have no zero that leads, and each character of a text is written
as itself or as an escape.
-/
namespace WifiScan.Json

/-! ### Words of the grammar -/

theorem QuotedText.escape_append (c : Char) {t : List Char} (more : QuotedText t) :
    QuotedText (Json.escape c ++ t) := by
  have way := escaped_escape c
  generalize Json.escape c = written at way ⊢
  cases way with
  | letter own =>
    apply QuotedText.escape _ more
    simp only [List.mem_cons, List.not_mem_nil, or_false] at own ⊢
    tauto
  | number control =>
    -- The code unit has two zeros and two digits of the number.
    rw [lower_control _ control]
    have high := digitValue?_digitChar (c.toNat / 16) (by omega)
    have low := digitValue?_digitChar (c.toNat % 16) (by omega)
    apply QuotedText.unit _ more
    intro x digit
    simp only [List.mem_cons, List.not_mem_nil, or_false] at digit
    rcases digit with rfl | rfl | rfl | rfl
    · decide
    · decide
    · exact Option.isSome_of_eq_some high
    · exact Option.isSome_of_eq_some low
  | plain quote backslash printed => exact .plain quote backslash printed more

theorem quotedText_written (s : List Char) : QuotedText (s.flatMap escape ++ ['"']) := by
  induction s with
  | nil => exact .close
  | cons c s ih =>
    rw [List.flatMap_cons, List.append_assoc]
    exact ih.escape_append c

/-- A name is read as the text that it was written for. -/
theorem nameOf_written (s : String) : nameOf (s.toList.flatMap escape ++ ['"']) = .ok s := by
  have named := readChars_name (quotedText_written s.toList) []
  rw [List.append_nil, readChars_quoted] at named
  cases same : nameOf (s.toList.flatMap escape ++ ['"']) with
  | error fault => rw [same] at named; cases named
  | ok n =>
    rw [same] at named
    cases named
    rw [String.ofList_toList]

theorem numberText_digits (i : Int) : NumberText (digits i) := by
  have unsigned (n : Nat) : UnsignedText (Nat.toDigits 10 n) := by
    have parts := UnsignedText.parts (whole_toDigits n) .absent .absent
    rwa [List.append_nil, List.append_nil] at parts
  cases i with
  | ofNat n => exact .positive (unsigned n)
  | negSucc n => exact .negative (unsigned (n + 1))

/-! ### Values, items and members -/

/-- A well-formed value is a written form of a value. -/
structure Form (j : Json) (v : List Char) : Prop where
  value : ValueText v
  written : ∃ rest, Written j (v ++ rest) rest

/-- The text of a member has the name of the member, and its value is a written form of the
member's. -/
structure MemberForm (m : String × Json) (kv : List Char × List Char) : Prop where
  named : nameOf kv.1 = .ok m.1
  form : Form m.2 kv.2

theorem forms_values {js : List Json} {vs : List (List Char)} (forms : List.Forall₂ Form js vs) :
    ∀ v ∈ vs, ValueText v := by
  induction forms with
  | nil => simp
  | cons form _ ih => exact List.forall_mem_cons.2 ⟨form.value, ih⟩

theorem memberForms_values {ms : List (String × Json)} {kvs : List (List Char × List Char)}
    (forms : List.Forall₂ MemberForm ms kvs) : ∀ kv ∈ kvs, ValueText kv.2 := by
  induction forms with
  | nil => simp
  | cons member _ ih => exact List.forall_mem_cons.2 ⟨member.form.value, ih⟩

mutual

/-- A text that starts with a written form is a well-formed value and what follows it. -/
theorem Written.form {j : Json} {cs rest : List Char} (written : Written j cs rest) :
    ∃ v, cs = v ++ rest ∧ Form j v := by
  have cut {v : List Char} (front : cs = v ++ rest) (value : ValueText v) :
      ∃ v, cs = v ++ rest ∧ Form j v := ⟨v, front, value, rest, front ▸ written⟩
  cases written with
  | null => exact cut rfl .null
  | @bool b => exact cut rfl (.bool b)
  | @int i => exact cut rfl (.number (numberText_digits i))
  | @text s => exact cut rfl (.text (quotedText_written s.toList))
  | list items =>
    obtain ⟨vs, t, rfl, layout, forms⟩ := items.forms
    exact cut rfl (.list layout (forms_values forms))
  | object members =>
    obtain ⟨kvs, t, rfl, layout, forms⟩ := members.forms
    exact cut rfl (.object layout (memberForms_values forms))

theorem WrittenItems.forms {first : Bool} {js : List Json} {cs rest : List Char}
    (written : WrittenItems first js cs rest) :
    ∃ vs t, cs = t ++ rest ∧ ItemsText first vs t ∧ List.Forall₂ Form js vs := by
  cases written with
  | @nil _ w _ blank => exact ⟨[], w ++ [']'], by simp, .nil blank, .nil⟩
  | cons gap item items =>
    obtain ⟨v, rfl, form⟩ := item.form
    obtain ⟨vs, t, rfl, layout, forms⟩ := items.forms
    exact ⟨v :: vs, _, by simp only [List.append_assoc], .cons gap layout, .cons form forms⟩

theorem WrittenMembers.forms {first : Bool} {ms : List (String × Json)} {cs rest : List Char}
    (written : WrittenMembers first ms cs rest) :
    ∃ kvs t, cs = t ++ rest ∧ MembersText first kvs t ∧ List.Forall₂ MemberForm ms kvs := by
  cases written with
  | @nil _ w _ blank => exact ⟨[], w ++ ['}'], by simp, .nil blank, .nil⟩
  | @cons _ k _ _ _ _ _ _ _ _ gap left right value members =>
    obtain ⟨v, rfl, form⟩ := value.form
    obtain ⟨kvs, t, rfl, layout, forms⟩ := members.forms
    have name := quotedText_written k.toList
    refine ⟨(_, v) :: kvs, _, ?_, .cons gap name left right layout,
      .cons ⟨nameOf_written k, form⟩ forms⟩
    simp only [quote, List.append_assoc, List.cons_append, List.nil_append]

end

namespace Form

variable {v : List Char}

theorem bool {b : Bool} (form : Form (.bool b) v) : v = boolWord b := by
  obtain ⟨-, rest, written⟩ := form
  generalize whole : v ++ rest = cs at written
  cases written
  exact List.append_cancel_right whole

theorem int {i : Int} (form : Form (.int i) v) : v = digits i := by
  obtain ⟨-, rest, written⟩ := form
  generalize whole : v ++ rest = cs at written
  cases written
  exact List.append_cancel_right whole

theorem text {s : String} (form : Form (.text s) v) : v = quote s := by
  obtain ⟨-, rest, written⟩ := form
  generalize whole : v ++ rest = cs at written
  cases written
  exact List.append_cancel_right whole

theorem list {js : List Json} (form : Form (.list js) v) :
    ∃ vs t, v = '[' :: t ∧ ItemsText true vs t ∧ List.Forall₂ Form js vs := by
  obtain ⟨-, rest, written⟩ := form
  generalize whole : v ++ rest = cs at written
  cases written with
  | list items =>
    obtain ⟨vs, t, rfl, layout, forms⟩ := items.forms
    exact ⟨vs, t, List.append_cancel_right whole, layout, forms⟩

theorem object {ms : List (String × Json)} (form : Form (.object ms) v) :
    ∃ kvs t, v = '{' :: t ∧ MembersText true kvs t ∧ List.Forall₂ MemberForm ms kvs := by
  obtain ⟨-, rest, written⟩ := form
  generalize whole : v ++ rest = cs at written
  cases written with
  | object members =>
    obtain ⟨kvs, t, rfl, layout, forms⟩ := members.forms
    exact ⟨kvs, t, List.append_cancel_right whole, layout, forms⟩

end Form

end WifiScan.Json

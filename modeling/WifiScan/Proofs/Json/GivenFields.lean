import WifiScan.Proofs.Json.Members
import Mathlib.Data.List.Forall2

/-!
# The fields that are given

What a text gives for the fields of a record is a list of members, each with a name and the text of
its value (`Fields.Gives`). They give a record if each field has the value of the one text given for
it, or its fallback if none is given (`Fields.Given`).

## Proof strategy

The draft that members come to is looked at field by field: a field has a value in it exactly if one
text was given for it and is decoded as the value (`gather_field`). So the record that is finished
from the draft is the one that is given (`outcome_eq_ok_iff`).
-/
namespace WifiScan.Json

variable {α ρ : Type}

/-- The texts that members of a name have. -/
def textsOf (name : String) (ms : List (String × List Char)) : List (List Char) :=
  (ms.filter (·.1 = name)).map Prod.snd

theorem textsOf_cons_self (name : String) (v : List Char) (ms : List (String × List Char)) :
    textsOf name ((name, v) :: ms) = v :: textsOf name ms := by
  simp [textsOf]

theorem textsOf_cons_other {name : String} {m : String × List Char} (other : m.1 ≠ name)
    (ms : List (String × List Char)) : textsOf name (m :: ms) = textsOf name ms := by
  simp [textsOf, other]

theorem mem_textsOf {name : String} {v : List Char} {ms : List (String × List Char)} :
    v ∈ textsOf name ms ↔ (name, v) ∈ ms := by
  simp [textsOf]

theorem textsOf_append (name : String) (ms ms' : List (String × List Char)) :
    textsOf name (ms ++ ms') = textsOf name ms ++ textsOf name ms' := by
  simp [textsOf]

namespace Fields

/-! ### What texts give -/

/-- A value shows members to a record: it is an object of members with these names and texts, or a
list whose items, no more than there are fields, stand for members named as the fields in order. -/
inductive Shows (fs : Fields ρ) : List (String × List Char) → List Char → Prop
  | object {ms : List (String × List Char)} {kvs : List (List Char × List Char)} {cs : List Char}
      (layout : MembersText true kvs cs) (values : ∀ kv ∈ kvs, ValueText kv.2)
      (names : List.Forall₂ (fun kv m => nameOf kv.1 = .ok m.1 ∧ kv.2 = m.2) kvs ms) :
      Shows fs ms ('{' :: cs)
  | list {vs : List (List Char)} {cs : List Char} (layout : ItemsText true vs cs)
      (items : ∀ v ∈ vs, ValueText v) (atMost : vs.length ≤ fs.names.length) :
      Shows fs (fs.names.zip vs) ('[' :: cs)

/-- A text gives members to a record: blanks apart, it is a value that shows them. -/
inductive Gives (fs : Fields ρ) : List (String × List Char) → List Char → Prop
  | text {ms : List (String × List Char)} {w v w' : List Char} (before : Blank w)
      (shows_ : fs.Shows ms v) (after : Blank w') : Gives fs ms (w ++ (v ++ w'))

/-- The value that a field has by the texts given for it. -/
inductive Filled (codec : Codec α) (fallback : Option α) : List (List Char) → α → Prop
  | once {v : List Char} {a : α} (decoded : codec.valueOf v = .ok a) : Filled codec fallback [v] a
  | never {a : α} (standsIn : fallback = some a) : Filled codec fallback [] a

/-- Members give a record: each of its fields has the value of the one text given for it, or its
fallback if none is given. -/
def Given : {ρ : Type} → Fields ρ → List (String × List Char) → ρ → Prop
  | _, .done, _, _ => True
  | _, .field name codec fallback rest, ms, (a, r) =>
    Filled codec fallback (textsOf name ms) a ∧ rest.Given ms r

/-- The names of the fields that have no fallback. -/
def required : {ρ : Type} → Fields ρ → List String
  | _, .done => []
  | _, .field name _ none rest => name :: rest.required
  | _, .field _ _ (some _) rest => rest.required

/-- Every field without a fallback is given, and no field is given twice. -/
structure Complete (fs : Fields ρ) (ms : List (String × List Char)) : Prop where
  given : ∀ name ∈ fs.required, textsOf name ms ≠ []
  once : ∀ name ∈ fs.names, (textsOf name ms).length ≤ 1

/-- If a member is named as a field, its text is decoded by the field's codec. -/
def Accepts : {ρ : Type} → Fields ρ → String × List Char → Prop
  | _, .done, _ => True
  | _, .field name codec _ rest, m =>
    (m.1 = name → ∃ a, codec.valueOf m.2 = .ok a) ∧ rest.Accepts m

/-- A member is named as a field whose codec refuses its text with a fault. -/
def Refuses : {ρ : Type} → Fields ρ → String × List Char → Fault → Prop
  | _, .done, _, _ => False
  | _, .field name codec _ rest, m, fault =>
    m.1 = name ∧ codec.valueOf m.2 = .error fault ∨ m.1 ≠ name ∧ rest.Refuses m fault

/-! ### Drafts -/

/-- Puts the values of members into a draft. -/
def gather (fs : Fields ρ) (d : fs.Draft) : List (String × List Char) → Except Fault fs.Draft
  | [] => .ok d
  | m :: ms => do fs.gather (← fs.take m.1 m.2 d) ms

/-- The record that members come to. -/
def outcome (fs : Fields ρ) (ms : List (String × List Char)) : Except Fault ρ :=
  (fs.gather fs.blank ms).bind fs.finish

theorem gather_done (ms : List (String × List Char)) : gather .done () ms = .ok () := by
  induction ms with
  | nil => rfl
  | cons m ms ih => exact ih

theorem takeAll_eq_gather {fs : Fields ρ} {kvs : List (List Char × List Char)}
    {ms : List (String × List Char)}
    (named : List.Forall₂ (fun kv m => nameOf kv.1 = .ok m.1 ∧ kv.2 = m.2) kvs ms) (d : fs.Draft) :
    fs.takeAll d kvs = fs.gather d ms := by
  induction named generalizing d with
  | nil => rfl
  | cons head _ ih =>
    obtain ⟨name, same⟩ := head
    simp only [takeAll, gather, name, same, bind, Except.bind]
    cases fs.take _ _ d with
    | error fault => rfl
    | ok d' => exact ih d'

/-- What a field holds once the texts given for it are put there. -/
def hold (codec : Codec α) : Option α → List (List Char) → Except Fault (Option α)
  | own, [] => .ok own
  | some _, _ :: _ => .error .mismatch
  | none, v :: vs => do hold codec (some (← codec.valueOf v)) vs

section Field

variable {name : String} {codec : Codec α} {fallback : Option α} {rest : Fields ρ}

/-- A draft is put together field by field. -/
theorem gather_field (new : name ∉ rest.names) {ms : List (String × List Char)}
    {own own' : Option α} {d d' : rest.Draft} :
    (field name codec fallback rest).gather (own, d) ms = .ok (own', d') ↔
      hold codec own (textsOf name ms) = .ok own' ∧ rest.gather d ms = .ok d' := by
  induction ms generalizing own d with
  | nil =>
    constructor
    · intro done
      cases done
      exact ⟨rfl, rfl⟩
    · rintro ⟨held, gathered⟩
      cases held
      cases gathered
      rfl
  | cons m ms ih =>
    obtain ⟨k, v⟩ := m
    by_cases same : k = name
    · subst same
      -- The other fields pass the member by.
      simp only [gather, take, if_true, take_other new, textsOf_cons_self, bind, Except.bind]
      cases own with
      | some a => simp [hold]
      | none =>
        simp only [hold, bind, Except.bind]
        cases codec.valueOf v with
        | error fault => simp [Except.map]
        | ok a => exact ih
    · have other : (k, v).1 ≠ name := same
      simp only [gather, take, same, if_false, textsOf_cons_other other, bind, Except.bind]
      cases rest.take k v d with
      | error fault => simp [Except.map]
      | ok d'' => exact ih

theorem hold_filled_iff {vs : List (List Char)} {a : α} :
    (∃ own, hold codec none vs = .ok own ∧ own.or fallback = some a) ↔
      Filled codec fallback vs a := by
  -- A second text is refused, so the texts given are none, or one that is decoded.
  match vs with
  | [] =>
    constructor
    · rintro ⟨own, held, value⟩
      cases held
      exact .never value
    · rintro ⟨⟩
      next standsIn => exact ⟨none, rfl, standsIn⟩
  | [v] =>
    constructor
    · rintro ⟨own, held, value⟩
      simp only [hold, bind, Except.bind] at held
      cases decoded : codec.valueOf v with
      | error fault => simp [decoded] at held
      | ok b =>
        rw [decoded] at held
        cases held
        cases value
        exact .once decoded
    · rintro ⟨⟩
      next decoded => exact ⟨some a, by simp only [hold, decoded, bind, Except.bind], rfl⟩
  | v :: v' :: vs =>
    constructor
    · rintro ⟨own, held, -⟩
      simp only [hold, bind, Except.bind] at held
      cases decoded : codec.valueOf v <;> simp [decoded] at held
    · rintro ⟨⟩

theorem finish_field {own : Option α} {d : rest.Draft} {a : α} {r : ρ} :
    (field name codec fallback rest).finish (own, d) = .ok (a, r) ↔
      own.or fallback = some a ∧ rest.finish d = .ok r := by
  simp only [finish]
  cases own.or fallback with
  | none => simp
  | some b => cases rest.finish d <;> simp [Except.map]

theorem exists_filled_iff {vs : List (List Char)} :
    (∃ a, Filled codec fallback vs a) ↔
      (fallback = none → vs ≠ []) ∧ vs.length ≤ 1 ∧ ∀ v ∈ vs, ∃ a, codec.valueOf v = .ok a := by
  constructor
  · rintro ⟨a, filled⟩
    cases filled with
    | once decoded => simpa using ⟨a, decoded⟩
    | never standsIn => simp [standsIn]
  · rintro ⟨given, once, decoded⟩
    match vs with
    | [] =>
      obtain ⟨a, standsIn⟩ := Option.ne_none_iff_exists'.1 fun none_ => given none_ rfl
      exact ⟨a, .never standsIn⟩
    | [v] =>
      obtain ⟨a, value⟩ := decoded v List.mem_cons_self
      exact ⟨a, .once value⟩
    | _ :: _ :: _ => simp at once

theorem complete_field {ms : List (String × List Char)} :
    (field name codec fallback rest).Complete ms ↔
      (fallback = none → textsOf name ms ≠ []) ∧ (textsOf name ms).length ≤ 1 ∧
        rest.Complete ms := by
  constructor
  · rintro ⟨given, once⟩
    refine ⟨fun missing => ?_, once name List.mem_cons_self, ⟨fun other member => ?_,
      fun other member => once other (List.mem_cons_of_mem _ member)⟩⟩
    · subst missing
      exact given name List.mem_cons_self
    · cases fallback with
      | none => exact given other (List.mem_cons_of_mem _ member)
      | some a => exact given other member
  · rintro ⟨given, once, others⟩
    constructor
    · intro other member
      -- Only a field without a fallback has to be given.
      cases fallback with
      | none =>
        rcases List.mem_cons.1 member with rfl | member
        · exact given rfl
        · exact others.given other member
      | some a => exact others.given other member
    · intro other member
      rcases List.mem_cons.1 member with rfl | member
      · exact once
      · exact others.once other member

theorem accepts_field {ms : List (String × List Char)} :
    (∀ m ∈ ms, (field name codec fallback rest).Accepts m) ↔
      (∀ v ∈ textsOf name ms, ∃ a, codec.valueOf v = .ok a) ∧ ∀ m ∈ ms, rest.Accepts m := by
  constructor
  · intro accepts
    exact ⟨fun v member => (accepts _ (mem_textsOf.1 member)).1 rfl,
      fun m member => (accepts m member).2⟩
  · rintro ⟨decoded, others⟩ ⟨k, v⟩ member
    refine ⟨?_, others _ member⟩
    rintro rfl
    exact decoded v (mem_textsOf.2 member)

end Field

theorem outcome_eq_ok_iff_exists {fs : Fields ρ} {ms : List (String × List Char)} {r : ρ} :
    fs.outcome ms = .ok r ↔ ∃ d, fs.gather fs.blank ms = .ok d ∧ fs.finish d = .ok r := by
  unfold outcome
  cases fs.gather fs.blank ms <;> simp [Except.bind]

/-- The record that members come to is the one that they give. -/
theorem outcome_eq_ok_iff {fs : Fields ρ} (distinct : fs.names.Nodup)
    {ms : List (String × List Char)} {r : ρ} : fs.outcome ms = .ok r ↔ fs.Given ms r := by
  induction fs with
  | done =>
    rw [outcome_eq_ok_iff_exists]
    exact ⟨fun _ => trivial, fun _ => ⟨(), gather_done ms, rfl⟩⟩
  | field name codec fallback rest ih =>
    obtain ⟨a, r⟩ := r
    obtain ⟨new, distinct⟩ := List.nodup_cons.1 distinct
    rw [outcome_eq_ok_iff_exists, Given, ← ih distinct, outcome_eq_ok_iff_exists,
      ← hold_filled_iff]
    constructor
    · rintro ⟨⟨own, d⟩, gathered, finished⟩
      obtain ⟨held, others⟩ := (gather_field new).1 gathered
      obtain ⟨value, others'⟩ := finish_field.1 finished
      exact ⟨⟨own, held, value⟩, d, others, others'⟩
    · rintro ⟨⟨own, held, value⟩, d, others, others'⟩
      exact ⟨(own, d), (gather_field new).2 ⟨held, others⟩, finish_field.2 ⟨value, others'⟩⟩

/-- Members give a record exactly if they are complete and their texts are decoded. -/
theorem exists_given_iff {fs : Fields ρ} {ms : List (String × List Char)} :
    (∃ r, fs.Given ms r) ↔ fs.Complete ms ∧ ∀ m ∈ ms, fs.Accepts m := by
  induction fs with
  | done =>
    refine ⟨fun _ => ⟨⟨?_, ?_⟩, fun _ _ => trivial⟩, fun _ => ⟨(), trivial⟩⟩
    · intro name member
      cases member
    · intro name member
      cases member
  | field name codec fallback rest ih =>
    rw [complete_field, accepts_field]
    constructor
    · rintro ⟨⟨a, r⟩, filled, others⟩
      obtain ⟨given, once, decoded⟩ := exists_filled_iff.1 ⟨a, filled⟩
      obtain ⟨complete, accepts⟩ := ih.1 ⟨r, others⟩
      exact ⟨⟨given, once, complete⟩, decoded, accepts⟩
    · rintro ⟨⟨given, once, complete⟩, decoded, accepts⟩
      obtain ⟨a, filled⟩ := exists_filled_iff.2 ⟨given, once, decoded⟩
      obtain ⟨r, others⟩ := ih.2 ⟨complete, accepts⟩
      exact ⟨(a, r), filled, others⟩

/-- Only the texts given for the fields matter to the record. -/
theorem given_congr {fs : Fields ρ} {ms ms' : List (String × List Char)} {r : ρ}
    (same : ∀ name ∈ fs.names, textsOf name ms = textsOf name ms') :
    fs.Given ms r ↔ fs.Given ms' r := by
  induction fs with
  | done => exact Iff.rfl
  | field name codec fallback rest ih =>
    obtain ⟨a, r⟩ := r
    have others := ih (r := r) fun other member => same other (List.mem_cons_of_mem _ member)
    rw [Given, Given, same name List.mem_cons_self, others]

end Fields

end WifiScan.Json

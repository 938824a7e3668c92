import WifiScan.Proofs.Json.Alternatives
import WifiScan.Proofs.Json.ByFields
import WifiScan.Proofs.Json.WrittenValues

/-!
# Codecs that read back what they write

A codec is lawful if it reads each value back from every written form of the value, in whatever text
the form stands (`Codec.Lawful`). The codecs of words, texts and names are lawful, and compound
codecs are lawful if their parts are.

## Proof strategy

A written form is a well-formed value, and what is read of such a value is known of each codec. So
nothing is read here once more: a list is what its items are decoded as, and a record is the one
that its members give, in whatever order they come.
-/
namespace WifiScan.Json

variable {α β : Type}

namespace Codec

/-- A codec reads back each value from any of its written forms, and takes nothing of the text that
follows. -/
structure Lawful (c : Codec α) : Prop where
  contained : Contained c.read
  back : ∀ {a : α} {v : List Char}, Form (c.toJson a) v → c.valueOf v = .ok a

/-! ### Words, texts and refinements -/

theorem integer_lawful {ofInt? : Int → Option α} {toInt : α → Int}
    (fits : ∀ a, Numeral.Fits (toInt a)) (back : ∀ a, ofInt? (toInt a) = some a) :
    (integer ofInt? toInt).Lawful where
  contained := integer_contained ofInt? toInt
  back {a v} form := by
    obtain rfl := Form.int form
    have yields : Yields (integer ofInt? toInt).read (digits (toInt a)) (.ok a) := by
      intro w more blank ends
      simp only [integer, readInteger_digits (fits a) blank ends, back, bind, Except.bind, pure,
        Except.pure, Except.map]
    exact yields.valueOf_self

theorem bool_lawful : bool.Lawful where
  contained := readBool_contained
  back {b v} form := by
    obtain rfl := Form.bool form
    have yields : Yields bool.read (boolWord b) (.ok b) := by
      intro w more blank _
      simp only [bool, readBool, skipBlanks_value (.bool b) blank]
      cases b <;> rfl
    exact yields.valueOf_self

theorem text_lawful : text.Lawful where
  contained := readText_contained
  back {s v} form := by
    obtain rfl := Form.text form
    exact nameOf_written s

theorem refine_lawful {c : Codec α} {build : α → Except Fault β} {parts : β → α}
    (lawful : c.Lawful) (back : ∀ b, build (parts b) = .ok b) :
    (c.refine build parts).Lawful where
  contained := refine_contained lawful.contained build parts
  back {b v} form := by
    have yields : Yields (c.refine build parts).read v _ :=
      (lawful.contained.yields form.value).bind build fun _ => rfl
    rw [yields.valueOf_self, lawful.back form]
    exact back b

/-! ### Lists -/

theorem Lawful.mapM_forms {c : Codec α} (lawful : c.Lawful) {as : List α} {vs : List (List Char)}
    (forms : List.Forall₂ Form (as.map c.toJson) vs) : vs.mapM c.valueOf = .ok as := by
  induction as generalizing vs with
  | nil =>
    cases forms
    rfl
  | cons a as ih =>
    cases forms with
    | cons form others =>
      simp only [List.mapM_cons, lawful.back form, ih others, bind, Except.bind, pure, Except.pure]

theorem list_lawful {c : Codec α} (lawful : c.Lawful) : (list c).Lawful where
  contained := list_contained lawful.contained
  back {as v} form := by
    obtain ⟨vs, t, rfl, layout, forms⟩ := Form.list form
    rw [(list_yields lawful.contained layout (forms_values forms)).valueOf_self]
    exact lawful.mapM_forms forms

/-! ### Named alternatives -/

theorem names_lawful {name : α → String} {all : List α}
    (own : ∀ a, all.find? (fun b => name b = name a) = some a) : (names name all).Lawful where
  contained := names_contained name all
  back {a v} form := by
    obtain rfl := Form.text form
    have found : (all.map fun b => Alternative.plain (name b) b).find? (·.name = name a) =
        some (.plain (name a) a) := by
      rw [List.find?_map]
      exact congrArg (Option.map _) (own a)
    have named : Alternative.find (all.map fun b => .plain (name b) b)
        ((name a).toList.flatMap escape ++ ['"']) = .ok (.plain (name a) a) := by
      simp only [Alternative.find, nameOf_written, found, bind, Except.bind, pure, Except.pure]
    have yields := Alternative.readAny_name (all.map fun b => .plain (name b) b)
      (quotedText_written (name a).toList)
    rw [named] at yields
    exact yields.valueOf_self

/-- An alternative that holds a value is read back with the value. -/
theorem holding_back {as : List (Alternative α)} {toJson : α → Json} {k : String} {c : Codec β}
    {wrap : β → α} (lawful : c.Lawful)
    (found : as.find? (·.name = k) = some (.holding k c wrap)) {b : β} {v : List Char}
    (form : Form (.object [(k, c.toJson b)]) v) :
    (alternatives as toJson).valueOf v = .ok (wrap b) := by
  obtain ⟨kvs, t, rfl, layout, forms⟩ := Form.object form
  cases forms with
  | @cons _ kv _ _ member others =>
    cases others
    obtain ⟨named, form⟩ := member
    have own : Alternative.find as kv.1 = .ok (.holding k c wrap) := by
      simp only [Alternative.find, named, found, bind, Except.bind, pure, Except.pure]
    have held := Alternative.holding_yields (lawful.contained.yields form.value) k wrap
    rw [lawful.back form] at held
    exact (Alternative.readAny_member own layout held).valueOf_self

end Codec

/-! ### Records -/

namespace Fields

/-- The codecs of all fields are lawful. -/
def LawfulParts : {ρ : Type} → Fields ρ → Prop
  | _, .done => True
  | _, .field _ codec _ rest => codec.Lawful ∧ rest.LawfulParts

structure Lawful {ρ : Type} (fs : Fields ρ) : Prop where
  parts : fs.LawfulParts
  distinct : fs.names.Nodup

variable {ρ : Type}

theorem LawfulParts.contained {fs : Fields ρ} (parts : fs.LawfulParts) : fs.ContainedParts := by
  induction fs with
  | done => trivial
  | field name codec fallback rest ih => exact ⟨parts.1.contained, ih parts.2⟩

theorem names_members (fs : Fields ρ) (r : ρ) : (fs.members r).map Prod.fst = fs.names := by
  induction fs with
  | done => rfl
  | field name codec fallback rest ih =>
    obtain ⟨a, r⟩ := r
    simp only [members, names, List.map_cons, ih]

/-- A member with the text of a written form of its value. -/
structure Carries (m : String × Json) (m' : String × List Char) : Prop where
  name : m'.1 = m.1
  form : Form m.2 m'.2

/-- Members in their texts are members by their names. -/
theorem exists_named {ms : List (String × Json)} {kvs : List (List Char × List Char)}
    (forms : List.Forall₂ MemberForm ms kvs) :
    ∃ ms', List.Forall₂ (fun kv m => nameOf kv.1 = .ok m.1 ∧ kv.2 = m.2) kvs ms' ∧
      List.Forall₂ Carries ms ms' := by
  induction forms with
  | nil => exact ⟨[], .nil, .nil⟩
  | @cons m kv _ _ member _ ih =>
    obtain ⟨ms', named, carries⟩ := ih
    exact ⟨(m.1, kv.2) :: ms', .cons ⟨member.named, rfl⟩ named, .cons ⟨rfl, member.form⟩ carries⟩

theorem map_fst_of_carries {ms : List (String × Json)} {ms' : List (String × List Char)}
    (carries : List.Forall₂ Carries ms ms') : ms'.map Prod.fst = ms.map Prod.fst := by
  induction carries with
  | nil => rfl
  | cons head _ ih => rw [List.map_cons, List.map_cons, head.name, ih]

/-- The members that a record is written with give the record. -/
theorem given_members {fs : Fields ρ} (lawful : fs.Lawful) {r : ρ}
    {ms : List (String × List Char)} (carries : List.Forall₂ Carries (fs.members r) ms) :
    fs.Given ms r := by
  induction fs generalizing ms with
  | done => trivial
  | field name codec fallback rest ih =>
    obtain ⟨a, r⟩ := r
    obtain ⟨⟨own, parts⟩, unique⟩ := lawful
    obtain ⟨new, distinct⟩ := List.nodup_cons.1 unique
    cases carries with
    | @cons _ m _ ms head others =>
      obtain ⟨k, v⟩ := m
      obtain ⟨same, form⟩ := head
      have same : k = name := same
      subst same
      -- The members that follow have other names, so the first is the only one of this field.
      have later : ms.map Prod.fst = rest.names := by
        rw [map_fst_of_carries others, names_members]
      have absent : textsOf k ms = [] := by
        rw [List.eq_nil_iff_forall_not_mem]
        intro u member
        exact new (later ▸ List.mem_map_of_mem (mem_textsOf.1 member))
      constructor
      · rw [textsOf_cons_self, absent]
        exact .once (own.back form)
      · apply (given_congr fun other member => ?_).2 (ih ⟨parts, distinct⟩ others)
        apply textsOf_cons_other
        rintro rfl
        exact new member

end Fields

theorem Codec.record_lawful {ρ : Type} {fs : Fields ρ} {build : ρ → α} {split : α → ρ}
    (lawful : fs.Lawful) (back : ∀ a, build (split a) = a) :
    (Codec.record fs build split).Lawful where
  contained := record_contained lawful.parts.contained build split
  back {a v} form := by
    obtain ⟨kvs, t, rfl, layout, forms⟩ := Form.object form
    obtain ⟨ms, named, carries⟩ := Fields.exists_named forms
    have shows_ : fs.Shows ms ('{' :: t) := .object layout (memberForms_values forms) named
    have yields := record_gathers lawful.parts.contained lawful.distinct build split shows_
    have given := Fields.given_members lawful carries
    rw [yields.valueOf_self, (Fields.outcome_eq_ok_iff lawful.distinct).2 given]
    exact congrArg Except.ok (back a)

/-- A lawful record is decoded by the fields that are given. -/
theorem Fields.Lawful.record_byFields {ρ : Type} {fs : Fields ρ} (lawful : fs.Lawful)
    (build : ρ → α) (split : α → ρ) :
    (Codec.record fs build split).ByFields fs fun r => .ok (build r) :=
  (Codec.record_gathers lawful.parts.contained lawful.distinct build split).byFields lawful.distinct

/-! ### Whole texts -/

namespace Codec.Lawful

variable {c : Codec α}

/-- A value is decoded from every text that is a written form of it. -/
theorem decode_written (lawful : c.Lawful) {a : α} {w cs w' : List Char} (before : Blank w)
    (written : Written (c.toJson a) cs w') (after : Blank w') :
    c.decode (String.ofList (w ++ cs)) = .ok a := by
  obtain ⟨v, rfl, form⟩ := written.form
  rw [← lawful.back form]
  exact (lawful.contained.yields form.value).valueOf before after

/-- A value is decoded from a written form that nothing follows. -/
theorem decode_whole (lawful : c.Lawful) {a : α} {cs : List Char}
    (written : Written (c.toJson a) (cs ++ []) []) : c.decode (String.ofList cs) = .ok a := by
  rw [List.append_nil] at written
  have read := lawful.decode_written blank_nil written blank_nil
  rwa [List.nil_append] at read

theorem decode_encode (lawful : c.Lawful) (a : α) : c.decode (c.encode a) = .ok a :=
  lawful.decode_whole (compact_written _ trivial)

end Codec.Lawful

end WifiScan.Json

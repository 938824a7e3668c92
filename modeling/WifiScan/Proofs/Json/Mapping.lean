import WifiScan.Json.Codec

/-!
# Records that are read alike

Two records whose fields have the same names, and whose values are the same up to a function for
each field, are read from the same texts and refused with the same faults (`Fields.Mapping.read`).
So what a record is read as does not depend on whether a value is turned into another while it is
read or afterwards.
-/
namespace WifiScan.Json

variable {α β ρ ρ' : Type}

/-- A function on what is read, which leaves the rest of the text as it is. -/
def onValue (turn : α → β) : α × List Char → β × List Char := fun (a, rest) => (turn a, rest)

/-- A rule that refuses nothing only turns what is read into something else. -/
theorem Codec.refine_ok_read (c : Codec α) (turn : α → β) (parts : β → α) (cs : List Char) :
    (c.refine (fun a => .ok (turn a)) parts).read cs = (c.read cs).map (onValue turn) := by
  simp only [refine]
  cases c.read cs <;> rfl

namespace Fields

/-- How the fields of one record become those of another with the same names: each value is turned
into another one after it is read. -/
inductive Mapping : {ρ ρ' : Type} → Fields ρ → Fields ρ' → Type 1 where
  | done : Mapping .done .done
  | field {α β ρ ρ' : Type} {rest : Fields ρ} {rest' : Fields ρ'} {codec : Codec α}
      {codec' : Codec β} (name : String) (fallback : Option α) (turn : α → β)
      (reads : ∀ cs, codec'.read cs = (codec.read cs).map (onValue turn))
      (others : Mapping rest rest') :
      Mapping (.field name codec fallback rest) (.field name codec' (fallback.map turn) rest')

namespace Mapping

def values : {ρ ρ' : Type} → {fs : Fields ρ} → {fs' : Fields ρ'} → Mapping fs fs' → ρ → ρ'
  | _, _, _, _, .done, r => r
  | _, _, _, _, .field _ _ turn _ others, (a, r) => (turn a, others.values r)

def draft : {ρ ρ' : Type} → {fs : Fields ρ} → {fs' : Fields ρ'} → Mapping fs fs' → fs.Draft →
    fs'.Draft
  | _, _, _, _, .done => fun d => d
  | _, _, _, _, @field α β _ _ rest rest' _ _ _ _ turn _ others =>
    fun (d : Option α × rest.Draft) => ((d.1.map turn, others.draft d.2) : Option β × rest'.Draft)

variable {fs : Fields ρ} {fs' : Fields ρ'}

theorem blank (m : Mapping fs fs') : m.draft fs.blank = fs'.blank := by
  induction m with
  | done => rfl
  | field name fallback turn reads others ih => exact congrArg (Prod.mk none) ih

theorem readMember (m : Mapping fs fs') (k : String) (d : fs.Draft) (cs : List Char) :
    fs'.readMember k (m.draft d) cs =
      (fs.readMember k d cs).map (Option.map (onValue m.draft)) := by
  induction m with
  | done => rfl
  | @field _ _ _ _ rest rest' codec codec' name fallback turn reads others ih =>
    obtain ⟨own, d⟩ := d
    simp only [Fields.readMember, draft]
    split
    · cases own with
      | some a => rfl
      | none =>
        simp only [Option.map_none, reads, bind, Except.bind]
        cases skipColon cs with
        | error fault => rfl
        | ok cs =>
          dsimp only
          cases codec.read cs <;> rfl
    · rw [ih]
      cases rest.readMember k d cs with
      | error fault => rfl
      | ok out => cases out <;> rfl

theorem readMembers (m : Mapping fs fs') (fuel : Nat) (first : Bool) (d : fs.Draft)
    (cs : List Char) : fs'.readMembers fuel first (m.draft d) cs =
      (fs.readMembers fuel first d cs).map (onValue m.draft) := by
  induction fuel generalizing first d cs with
  | zero => rfl
  | succ fuel ih =>
    simp only [Fields.readMembers]
    cases nextName first cs with
    | error fault => rfl
    | ok next =>
      cases next with
      | none => rfl
      | some named =>
        obtain ⟨k, cs⟩ := named
        simp only [m.readMember, bind, Except.bind]
        cases fs.readMember k d cs with
        | error fault => rfl
        | ok out =>
          cases out with
          | some out => exact ih false out.1 out.2
          | none =>
            -- No field has the name, so that the value is skipped, which leaves both drafts alone.
            simp only [Except.map, Option.map_none]
            cases skipColon cs with
            | error fault => rfl
            | ok cs =>
              dsimp only
              cases skipValue cs with
              | error fault => rfl
              | ok cs => exact ih false d cs

theorem finish (m : Mapping fs fs') (d : fs.Draft) :
    fs'.finish (m.draft d) = (fs.finish d).map m.values := by
  induction m with
  | done => rfl
  | field name fallback turn reads others ih =>
    obtain ⟨own, d⟩ := d
    simp only [Fields.finish, draft, ← Option.map_or]
    cases own.or fallback with
    | none => rfl
    | some a =>
      simp only [Option.map_some, ih]
      cases Fields.finish _ d <;> rfl

theorem readInOrder (m : Mapping fs fs') (first : Bool) (cs : List Char) :
    fs'.readInOrder first cs = (fs.readInOrder first cs).map (onValue m.values) := by
  induction m generalizing first cs with
  | done => rfl
  | @field _ _ _ _ rest rest' codec codec' name fallback turn reads others ih =>
    simp only [Fields.readInOrder, bind, Except.bind]
    -- Both look for the next item in the same text.
    cases nextItem first cs with
    | error fault => rfl
    | ok next =>
      cases next with
      | some cs =>
        simp only [reads]
        cases codec.read cs with
        | error fault => rfl
        | ok out =>
          simp only [Except.map, onValue, ih]
          cases rest.readInOrder false out.2 <;> rfl
      | none =>
        cases fallback with
        | none => rfl
        | some a =>
          simp only [Option.map_some, ih]
          cases rest.readInOrder first cs <;> rfl

/-- Both records are read from the same texts. -/
theorem read (m : Mapping fs fs') (cs : List Char) :
    fs'.read cs = (fs.read cs).map (onValue m.values) := by
  simp only [Fields.read]
  split
  next rest _ =>
    simp only [m.readInOrder, bind, Except.bind]
    cases fs.readInOrder true rest with
    | error fault => rfl
    | ok out =>
      simp only [Except.map, onValue]
      cases closeList out.2 <;> rfl
  next rest _ =>
    -- The members come in any order: they are put into drafts, which are finished in the end.
    simp only [← m.blank, m.readMembers, bind, Except.bind]
    cases fs.readMembers (rest.length + 1) true fs.blank rest with
    | error fault => rfl
    | ok out =>
      simp only [Except.map, onValue, m.finish]
      cases fs.finish out.1 with
      | error fault => rfl
      | ok r =>
        dsimp only
        cases closeObject out.2 <;> rfl
  next => rfl

end Mapping

end Fields

end WifiScan.Json

import WifiScan.Json.Value
import WifiScan.Json.Reader
import WifiScan.Word

/-!
# Codecs

How the values of a type are read from JSON text and written as JSON. A codec of a compound type is
put together from the codecs of its parts: lists, sets of numbers, named alternatives and records.

A record is described by its fields in order, each with a name, a codec and perhaps a value that
stands in when the field is not given. It is read from an object, whose members may come in any
order and among members of other names, or from a list of its fields in order.
-/
namespace WifiScan.Json

/-- How the values of a type are read and written. -/
structure Codec (α : Type) where
  read : Reader α
  toJson : α → Json

namespace Codec

variable {α β : Type}

def decode (c : Codec α) (text : String) : Except Fault α := readWhole c.read text

def encode (c : Codec α) (a : α) : String := (c.toJson a).toLine

def encodeLines (c : Codec α) (a : α) : String := (c.toJson a).toLines

/-- Reads values of one type as values of another, with a rule that may refuse them. -/
def refine (c : Codec α) (build : α → Except Fault β) (parts : β → α) : Codec β where
  read cs := do
    let (a, rest) ← c.read cs
    return (← build a, rest)
  toJson b := c.toJson (parts b)

/-- The integers that `ofInt?` takes. -/
def integer (ofInt? : Int → Option α) (toInt : α → Int) : Codec α where
  read cs := do
    let (i, rest) ← readInteger cs
    match ofInt? i with
    | some a => return (a, rest)
    | none => .error .mismatch
  toJson a := .int (toInt a)

def uint8 : Codec UInt8 := integer Word.uint8? fun n => n.toNat

def uint32 : Codec UInt32 := integer Word.uint32? fun n => n.toNat

def uint64 : Codec UInt64 := integer Word.uint64? fun n => n.toNat

def int32 : Codec Int32 := integer Word.int32? Int32.toInt

def bool : Codec Bool := ⟨readBool, .bool⟩

def text : Codec String := ⟨readText, .text⟩

def list (c : Codec α) : Codec (List α) := ⟨readList c.read, fun as => .list (as.map c.toJson)⟩

/-- A value or `null` in its place. -/
def option (c : Codec α) : Codec (Option α) where
  read cs :=
    match skipBlanks cs with
    | 'n' :: rest => (readWord ['u', 'l', 'l'] rest).map fun rest => (none, rest)
    | cs => (c.read cs).map fun (a, rest) => (some a, rest)
  toJson
    | none => .null
    | some a => c.toJson a

end Codec

/-- One alternative of a type of named alternatives. -/
structure Alternative (α : Type) where
  name : String
  read : Reader α
  /-- The value of the name by itself, for an alternative that holds nothing. -/
  bare? : Option α

namespace Alternative

variable {α β : Type}

/-- An alternative that holds nothing. -/
def plain (name : String) (a : α) : Alternative α :=
  ⟨name, fun cs => (readNull cs).map fun (_, rest) => (a, rest), some a⟩

/-- An alternative that holds a value. -/
def holding (name : String) (c : Codec β) (wrap : β → α) : Alternative α :=
  ⟨name, fun cs => (c.read cs).map fun (b, rest) => (wrap b, rest), none⟩

def readName (as : List (Alternative α)) : Reader (Alternative α) := fun cs => do
  let (k, rest) ← readText cs
  match as.find? (·.name = k) with
  | some a => return (a, rest)
  | none => .error .mismatch

/-- Reads a name by itself, or an object of one member that has the name. -/
def readAny (as : List (Alternative α)) : Reader α := fun cs =>
  match skipBlanks cs with
  | [] => .error .truncated
  | '"' :: rest => do
    let (a, rest) ← readName as ('"' :: rest)
    match a.bare? with
    | some v => return (v, rest)
    | none => .error .mismatch
  | '{' :: rest =>
    match skipBlanks rest with
    | [] => .error .truncated
    | '"' :: rest => do
      let (a, rest) ← readName as ('"' :: rest)
      let (v, rest) ← a.read (← skipColon rest)
      return (v, ← closeObject rest)
    -- An object is read for its name alone: another kind of value there has not been looked at.
    | _ => .error .malformed
  | _ => .error .malformed

end Alternative

/-- A type of named alternatives. -/
def Codec.alternatives {α : Type} (as : List (Alternative α)) (toJson : α → Json) : Codec α :=
  ⟨Alternative.readAny as, toJson⟩

def Codec.names {α : Type} (name : α → String) (all : List α) : Codec α :=
  .alternatives (all.map fun a => .plain (name a) a) fun a => .text (name a)

/-- The fields of a record in order. `ρ` is the type of their values, nested to the right. -/
inductive Fields : Type → Type 1 where
  | done : Fields Unit
  | field {α ρ : Type} (name : String) (codec : Codec α) (fallback : Option α) (rest : Fields ρ) :
      Fields (α × ρ)

namespace Fields

/-- The values read so far of the fields of a record. -/
def Draft : {ρ : Type} → Fields ρ → Type
  | _, .done => Unit
  | _, @Fields.field α _ _ _ _ rest => Option α × Draft rest

def blank : {ρ : Type} → (fs : Fields ρ) → fs.Draft
  | _, .done => ()
  | _, .field _ _ _ rest => (none, rest.blank)

/-- Reads the member named `k` from its colon on; `none` if no field has the name. A field that has
its value already is a fault. -/
def readMember : {ρ : Type} → (fs : Fields ρ) → String → fs.Draft → List Char →
    Except Fault (Option (fs.Draft × List Char))
  | _, .done => fun _ _ _ => .ok none
  | _, @Fields.field α _ name codec _ rest => fun k (d : Option α × rest.Draft) cs =>
    if k = name then
      match d.1 with
      | some _ => .error .mismatch
      | none => do
        let (a, cs) ← codec.read (← skipColon cs)
        return some ((some a, d.2), cs)
    else
      (rest.readMember k d.2 cs).map (Option.map fun (d', cs) => ((d.1, d'), cs))

/-- Reads the members of an object up to its closing brace. -/
def readMembers {ρ : Type} (fs : Fields ρ) : Nat → Bool → fs.Draft → Reader fs.Draft
  | 0, _, _, _ => .error .malformed
  | fuel + 1, first, d, cs =>
    match nextName first cs with
    | .error e => .error e
    | .ok none => .ok (d, cs)
    | .ok (some (k, cs)) => do
      match ← fs.readMember k d cs with
      | some (d, cs) => fs.readMembers fuel false d cs
      | none => fs.readMembers fuel false d (← skipValue (← skipColon cs))

/-- The values of a draft, with a fallback for each field not given. -/
def finish : {ρ : Type} → (fs : Fields ρ) → fs.Draft → Except Fault ρ
  | _, .done => fun _ => .ok ()
  | _, @Fields.field α _ _ _ fallback rest => fun (d : Option α × rest.Draft) =>
    match d.1.or fallback with
    | some a => (rest.finish d.2).map fun r => (a, r)
    | none => .error .mismatch

/-- Reads the fields as items of a list, up to its closing bracket. -/
def readInOrder : {ρ : Type} → Fields ρ → Bool → Reader ρ
  | _, .done, _, cs => .ok ((), cs)
  | _, .field _ codec fallback rest, first, cs => do
    match ← nextItem first cs with
    | some cs =>
      let (a, cs) ← codec.read cs
      let (r, cs) ← rest.readInOrder false cs
      return ((a, r), cs)
    | none =>
      match fallback with
      | none => .error .mismatch
      | some a =>
        let (r, cs) ← rest.readInOrder first cs
        return ((a, r), cs)

/-- Reads a record from an object or a list. -/
def read {ρ : Type} (fs : Fields ρ) : Reader ρ := fun cs =>
  match skipBlanks cs with
  | '[' :: rest => do
    let (r, rest) ← fs.readInOrder true rest
    return (r, ← closeList rest)
  | '{' :: rest => do
    let (d, rest) ← fs.readMembers (rest.length + 1) true fs.blank rest
    let r ← fs.finish d
    return (r, ← closeObject rest)
  | cs => .error (misfit cs)

/-- The members that write a record: every field, in order. -/
def members : {ρ : Type} → Fields ρ → ρ → List (String × Json)
  | _, .done, _ => []
  | _, .field name codec _ rest, (a, r) => (name, codec.toJson a) :: rest.members r

end Fields

/-- A record with the given fields. -/
def Codec.record {ρ α : Type} (fs : Fields ρ) (build : ρ → α) (parts : α → ρ) : Codec α where
  read cs := (fs.read cs).map fun (r, rest) => (build r, rest)
  toJson a := .object (fs.members (parts a))

end WifiScan.Json

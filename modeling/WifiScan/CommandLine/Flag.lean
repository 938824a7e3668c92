import WifiScan.CommandLine.UsageError

/-!
# Flags

How an argument list is read at one command: flags with and without values up to the end of the list
or to the name of a subcommand. A flag is given by its long name after two dashes or by its short
one after one dash. A value follows as the next argument, or in the same argument, after `=` or
right after a short name. Short names may be run together.

A value in an argument of its own is taken up late, when the next flag comes or the list ends. What
is wrong with it then yields to what is wrong with the arguments in between. After two dashes alone
no argument is a flag.
-/
namespace WifiScan.CommandLine

/-- What a flag does to the values read so far. -/
inductive Action (σ : Type) where
  | stop (answer : UsageError)
  /-- Takes no value and may be given once. -/
  | switch (set : σ → σ)
  /-- Takes a value and may be given once. -/
  | single (set : σ → String → Except UsageError σ)
  /-- Takes a value and may be given many times. -/
  | repeated (add : σ → String → Except UsageError σ)

def Action.takesValue {σ : Type} : Action σ → Bool
  | stop _ | switch _ => false
  | single _ | repeated _ => true

structure Flag (σ : Type) where
  long : String
  short : Option Char
  action : Action σ

structure Reading (σ : Type) where
  values : σ
  /-- The long names of the flags taken up. -/
  given : List String
  /-- A flag not taken up yet, with its value unless that is still to come. -/
  pending : Option (Flag σ × Option String)
  /-- Whether two dashes have ended the flags. -/
  flagsEnded : Bool

/-- Where the arguments of one command end. -/
inductive Stop where
  | ended
  | subcommand (name : String) (rest : List String)
  deriving DecidableEq, Repr

namespace Reading

variable {σ : Type}

def initial (values : σ) : Reading σ := ⟨values, [], none, false⟩

/-- Whether the next argument is the value of a flag unless it is a flag itself. -/
def awaitsValue (r : Reading σ) : Bool :=
  match r.pending with
  | some (_, none) => true
  | _ => false

/-- Takes up a flag. Only a flag that takes a value looks at it. -/
def take (r : Reading σ) (f : Flag σ) (value : String) : Except UsageError (Reading σ) := do
  let record (values : σ) : Reading σ := { r with values, given := f.long :: r.given }
  match f.action with
  | .stop answer => .error answer
  | .switch set => if f.long ∈ r.given then .error .conflict else return record (set r.values)
  | .single set =>
    if f.long ∈ r.given then .error .conflict else return record (← set r.values value)
  | .repeated add => return record (← add r.values value)

/-- Takes up the flag that is pending. A value still to come is missing then. -/
def settle (r : Reading σ) : Except UsageError (Reading σ) :=
  match r.pending with
  | none => .ok r
  | some (_, none) => .error .unknownValue
  | some (f, some value) => { r with pending := none }.take f value

/-- Takes up a flag after the one that is pending. -/
def takeNext (r : Reading σ) (f : Flag σ) (value : String) : Except UsageError (Reading σ) := do
  (← r.settle).take f value

/-- Leaves a flag pending after the one that is. -/
def await (r : Reading σ) (f : Flag σ) : Except UsageError (Reading σ) := do
  return { ← r.settle with pending := some (f, none) }

/-- Reads a long name, with the value after `=` if there is one. -/
def readLong (flags : List (Flag σ)) (r : Reading σ) (body : List Char) :
    Except UsageError (Reading σ) :=
  let name := String.ofList (body.takeWhile (· ≠ '='))
  match flags.find? (·.long = name) with
  | none => .error .unknownArgument
  | some f =>
    match f.action.takesValue, body.dropWhile (· ≠ '=') with
    | true, [] => r.await f
    | true, _ :: value => r.takeNext f (String.ofList value)
    | false, [] => r.takeNext f ""
    | false, _ :: _ => .error .unexpectedValue

/-- Reads short names up to the first that takes a value. Its value is the rest, less an `=` before
it. -/
def readShort (flags : List (Flag σ)) : Reading σ → List Char → Except UsageError (Reading σ)
  | r, [] => .ok r
  | r, c :: rest =>
    match flags.find? (·.short = some c) with
    | none => .error .unknownArgument
    | some f =>
      match f.action.takesValue, rest with
      | true, [] => r.await f
      -- One `=` is no part of the value.
      | true, '=' :: value => r.takeNext f (String.ofList value)
      | true, value => r.takeNext f (String.ofList value)
      | false, rest => do readShort flags (← r.takeNext f "") rest

/-- The fault of an argument that has no meaning where it stands. -/
def stray (subcommands : List String) (r : Reading σ) (a : String) : UsageError :=
  if subcommands.isEmpty ∨ (r.flagsEnded ∧ a ∈ subcommands) then .unknownArgument
  else .unknownCommand

/-- Reads arguments up to the end or to the name of a subcommand. -/
def read (flags : List (Flag σ)) (subcommands : List String) :
    Reading σ → List String → Except UsageError (Reading σ × Stop)
  | r, [] => .ok (r, .ended)
  | r, a :: rest =>
    -- No command takes arguments that are not flags, so two dashes leave nothing to read.
    if r.flagsEnded then .error (r.stray subcommands a)
    else if !r.awaitsValue && a ∈ subcommands then .ok (r, .subcommand a rest)
    else
      match a.toList, r.pending with
      | ['-', '-'], _ => read flags subcommands { r with flagsEnded := true } rest
      | '-' :: '-' :: body, _ => do read flags subcommands (← r.readLong flags body) rest
      | '-' :: c :: body, _ => do read flags subcommands (← r.readShort flags (c :: body)) rest
      -- The value of the flag before it, which is looked at later.
      | _, some (f, none) => read flags subcommands { r with pending := some (f, some a) } rest
      | _, _ => .error (r.stray subcommands a)

end Reading

end WifiScan.CommandLine

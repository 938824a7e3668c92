import WifiScan.Hex
import WifiScan.Json.Numeral

/-!
# Reading JSON text

Readers take a value off the front of a text and return the rest. What is wrong with a text is one
of three things: it is no JSON, it ends early, or it is JSON of another type than the reader asks
for. The first fault from the left counts, and a value that nobody asks for is only checked for its
form: a number may be out of range there, and a surrogate may stand alone.
-/
namespace WifiScan.Json

inductive Fault where
  | malformed
  /-- The text ends before its value does. -/
  | truncated
  /-- A value is not of the type that is asked for. -/
  | mismatch
  /-- A value has the form of its type and breaks a rule of it. -/
  | refused (reason : String)
  deriving DecidableEq, Repr

/-- Takes a value off the front of a text. -/
abbrev Reader (α : Type) := List Char → Except Fault (α × List Char)

def isBlank (c : Char) : Bool := c = ' ' || c = '\n' || c = '\t' || c = '\r'

def skipBlanks (cs : List Char) : List Char := cs.dropWhile isBlank

/-- Takes off the rest of a word. -/
def readWord : List Char → List Char → Except Fault (List Char)
  | [], cs => .ok cs
  | _ :: _, [] => .error .truncated
  | w :: ws, c :: cs => if c = w then readWord ws cs else .error .malformed

/-- The character that a letter after a backslash stands for. -/
def unescape? (c : Char) : Option Char :=
  if c = '"' ∨ c = '\\' ∨ c = '/' then some c
  else if c = 'b' then some '\x08'
  else if c = 'f' then some '\x0c'
  else if c = 'n' then some '\n'
  else if c = 'r' then some '\r'
  else if c = 't' then some '\t'
  else none

/-- Where a reader stands inside a text in quotes. -/
inductive TextState where
  | plain
  | escape
  /-- At a digit of a code unit with `more` digits to follow; `high` is the first half of a
  surrogate pair. -/
  | unit (more value : Nat) (high : Option Nat)
  /-- After the first half of a surrogate pair. -/
  | pair (high : Nat)
  /-- After the first half of a surrogate pair and a backslash. -/
  | pairEscape (high : Nat)
  deriving DecidableEq, Repr

def isHighSurrogate (n : Nat) : Bool := 0xD800 ≤ n && n ≤ 0xDBFF

def isLowSurrogate (n : Nat) : Bool := 0xDC00 ≤ n && n ≤ 0xDFFF

/-- The character of a surrogate pair. -/
def ofSurrogates (high low : Nat) : Char :=
  Char.ofNat (0x10000 + (high - 0xD800) * 0x400 + (low - 0xDC00))

/-- The fault of a code unit whose digit, with `more` to follow, is none: a text of fewer bytes than
the four digits take ends early. -/
def unitFault (more : Nat) (cs : List Char) : Fault :=
  if 4 ≤ 3 - more + (String.ofList (cs.take 4)).utf8ByteSize then .malformed else .truncated

/-- Reads a text in quotes up to its closing quote. -/
def readChars : TextState → Reader (List Char)
  | _, [] => .error .truncated
  | .plain, c :: cs =>
    if c = '"' then .ok ([], cs)
    else if c = '\\' then readChars .escape cs
    else if c.toNat < 0x20 then .error .malformed
    else (readChars .plain cs).map fun (r, rest) => (c :: r, rest)
  | .escape, c :: cs =>
    match unescape? c with
    | some d => (readChars .plain cs).map fun (r, rest) => (d :: r, rest)
    | none => if c = 'u' then readChars (.unit 3 0 none) cs else .error .malformed
  | .unit more value high, c :: cs =>
    match Hex.digitValue? c with
    | none => .error (unitFault more (c :: cs))
    | some d =>
      let value := 16 * value + d
      match more, high with
      | more + 1, _ => readChars (.unit more value high) cs
      -- A code unit by itself, or the first half of a pair
      | 0, none =>
        if isLowSurrogate value then .error .malformed
        else if isHighSurrogate value then readChars (.pair value) cs
        else (readChars .plain cs).map fun (r, rest) => (Char.ofNat value :: r, rest)
      -- The second half of a pair
      | 0, some h =>
        if isLowSurrogate value then
          (readChars .plain cs).map fun (r, rest) => (ofSurrogates h value :: r, rest)
        else .error .malformed
  | .pair high, c :: cs =>
    if c = '\\' then readChars (.pairEscape high) cs else .error .malformed
  | .pairEscape high, c :: cs =>
    if c = 'u' then readChars (.unit 3 0 (some high)) cs else .error .malformed

/-- Where a reader stands inside a text that nobody asks for. -/
inductive SkipState where
  | plain
  | escape
  | unit (more : Nat)
  deriving DecidableEq, Repr

/-- Skips a text in quotes up to its closing quote. Surrogates need not be paired. -/
def skipChars : SkipState → List Char → Except Fault (List Char)
  | _, [] => .error .truncated
  | .plain, c :: cs =>
    if c = '"' then .ok cs
    else if c = '\\' then skipChars .escape cs
    else if c.toNat < 0x20 then .error .malformed
    else skipChars .plain cs
  | .escape, c :: cs =>
    if (unescape? c).isSome then skipChars .plain cs
    else if c = 'u' then skipChars (.unit 3) cs
    else .error .malformed
  | .unit more, c :: cs =>
    match Hex.digitValue? c, more with
    | none, _ => .error (unitFault more (c :: cs))
    | some _, more + 1 => skipChars (.unit more) cs
    | some _, 0 => skipChars .plain cs

/-- Whether a number starts with a character. -/
def startsNumber (c : Char) : Bool := c = '-' || c.isDigit

/-- Reads a number; it is `none` unless it is an integer of 64 bits. -/
def readNumber : Reader (Option Int) := fun cs =>
  match Numeral.scan cs with
  | .error .ended => .error .truncated
  | .error .unexpected => .error .malformed
  | .ok (n, rest) => if n.isFinite then .ok (n.integer?, rest) else .error .malformed

/-- Skips a number, of any size. -/
def skipNumber (cs : List Char) : Except Fault (List Char) :=
  match Numeral.scan cs with
  | .error _ => .error .malformed
  | .ok (_, rest) => .ok rest

/-- The fault of a value that is not of the type asked for. A value without content is read through
first, and has its own faults before that of its type. -/
def misfit (cs : List Char) : Fault :=
  let after {α : Type} (r : Except Fault α) : Fault :=
    match r with
    | .error e => e
    | .ok _ => .mismatch
  match cs with
  | [] => .truncated
  | 'n' :: rest => after (readWord ['u', 'l', 'l'] rest)
  | 't' :: rest => after (readWord ['r', 'u', 'e'] rest)
  | 'f' :: rest => after (readWord ['a', 'l', 's', 'e'] rest)
  | '"' :: rest => after (readChars .plain rest)
  -- Lists and objects are not read through.
  | '[' :: _ => .mismatch
  | '{' :: _ => .mismatch
  | c :: _ => if startsNumber c then after (readNumber cs) else .malformed

mutual

def skipValueWith : Nat → List Char → Except Fault (List Char)
  | 0, _ => .error .malformed
  | fuel + 1, cs =>
    match skipBlanks cs with
    | [] => .error .truncated
    | 'n' :: rest => readWord ['u', 'l', 'l'] rest
    | 't' :: rest => readWord ['r', 'u', 'e'] rest
    | 'f' :: rest => readWord ['a', 'l', 's', 'e'] rest
    | '"' :: rest => skipChars .plain rest
    | '[' :: rest =>
      match skipBlanks rest with
      | [] => .error .truncated
      | ']' :: rest => .ok rest
      | rest => skipItemsWith fuel rest
    | '{' :: rest =>
      match skipBlanks rest with
      | [] => .error .truncated
      | '}' :: rest => .ok rest
      | rest => skipMembersWith fuel rest
    | c :: rest => if startsNumber c then skipNumber (c :: rest) else .error .malformed

/-- Skips one item of a list or more, and the closing bracket. -/
def skipItemsWith : Nat → List Char → Except Fault (List Char)
  | 0, _ => .error .malformed
  | fuel + 1, cs => do
    match skipBlanks (← skipValueWith fuel cs) with
    | [] => .error .truncated
    | ']' :: rest => .ok rest
    | ',' :: rest => skipItemsWith fuel rest
    | _ => .error .malformed

/-- Skips one member of an object or more, and the closing brace. -/
def skipMembersWith : Nat → List Char → Except Fault (List Char)
  | 0, _ => .error .malformed
  | fuel + 1, cs =>
    match skipBlanks cs with
    | [] => .error .truncated
    | '"' :: rest => do
      match skipBlanks (← skipChars .plain rest) with
      | [] => .error .truncated
      | ':' :: rest =>
        match skipBlanks (← skipValueWith fuel rest) with
        | [] => .error .truncated
        | '}' :: rest => .ok rest
        | ',' :: rest => skipMembersWith fuel rest
        | _ => .error .malformed
      | _ => .error .malformed
    | _ => .error .malformed

end

/-- Skips a value that nobody asks for. Each two steps take a character off the text, which bounds
their number. -/
def skipValue (cs : List Char) : Except Fault (List Char) := skipValueWith (2 * cs.length + 2) cs

def readText : Reader String := fun cs =>
  match skipBlanks cs with
  | '"' :: rest => (readChars .plain rest).map fun (r, rest) => (String.ofList r, rest)
  | cs => .error (misfit cs)

def readInteger : Reader Int := fun cs =>
  match skipBlanks cs with
  | [] => .error .truncated
  | c :: rest =>
    if startsNumber c then
      match readNumber (c :: rest) with
      | .ok (some i, rest) => .ok (i, rest)
      | .ok (none, _) => .error .mismatch
      | .error e => .error e
    else .error (misfit (c :: rest))

def readBool : Reader Bool := fun cs =>
  match skipBlanks cs with
  | 't' :: rest => (readWord ['r', 'u', 'e'] rest).map fun rest => (true, rest)
  | 'f' :: rest => (readWord ['a', 'l', 's', 'e'] rest).map fun rest => (false, rest)
  | cs => .error (misfit cs)

/-- Reads the value without content. -/
def readNull : Reader Unit := fun cs =>
  match skipBlanks cs with
  | 'n' :: rest => (readWord ['u', 'l', 'l'] rest).map fun rest => ((), rest)
  | cs => .error (misfit cs)

/-- Where the next item of a list starts; `none` at the closing bracket. -/
def nextItem (first : Bool) (cs : List Char) : Except Fault (Option (List Char)) :=
  match skipBlanks cs with
  | [] => .error .truncated
  | ']' :: _ => .ok none
  | c :: rest =>
    if first then .ok (some (c :: rest))
    else if c = ',' then
      match skipBlanks rest with
      | [] => .error .truncated
      -- No comma stands before the closing bracket.
      | ']' :: _ => .error .malformed
      | rest => .ok (some rest)
    else .error .malformed

def closeList (cs : List Char) : Except Fault (List Char) :=
  match skipBlanks cs with
  | [] => .error .truncated
  | ']' :: rest => .ok rest
  | _ => .error .malformed

/-- Reads the items of a list up to its closing bracket. -/
def readItems {α : Type} (read : Reader α) : Nat → Bool → Reader (List α)
  | 0, _, _ => .error .malformed
  | fuel + 1, first, cs =>
    match nextItem first cs with
    | .error e => .error e
    | .ok none => .ok ([], cs)
    | .ok (some cs) => do
      let (a, rest) ← read cs
      let (as, rest) ← readItems read fuel false rest
      return (a :: as, rest)

/-- Reads a list, all of whose items are read alike. -/
def readList {α : Type} (read : Reader α) : Reader (List α) := fun cs =>
  match skipBlanks cs with
  | '[' :: rest => do
    let (as, rest) ← readItems read (rest.length + 1) true rest
    return (as, ← closeList rest)
  | cs => .error (misfit cs)

/-- The next name of an object, from its opening quote on; `none` at the closing brace. -/
def nextName (first : Bool) (cs : List Char) : Except Fault (Option (String × List Char)) :=
  let named (rest : List Char) :=
    (readChars .plain rest).map fun (k, rest) => some (String.ofList k, rest)
  match skipBlanks cs with
  | [] => .error .truncated
  | '}' :: _ => .ok none
  | '"' :: rest => if first then named rest else .error .malformed
  | ',' :: rest =>
    if first then .error .malformed
    else
      match skipBlanks rest with
      | [] => .error .truncated
      | '"' :: rest => named rest
      | _ => .error .malformed
  | _ => .error .malformed

def skipColon (cs : List Char) : Except Fault (List Char) :=
  match skipBlanks cs with
  | [] => .error .truncated
  | ':' :: rest => .ok rest
  | _ => .error .malformed

def closeObject (cs : List Char) : Except Fault (List Char) :=
  match skipBlanks cs with
  | [] => .error .truncated
  | '}' :: rest => .ok rest
  | _ => .error .malformed

/-- Reads a whole text, after which only blanks may follow. -/
def readWhole {α : Type} (read : Reader α) (text : String) : Except Fault α := do
  let (a, rest) ← read text.toList
  match skipBlanks rest with
  | [] => return a
  | _ => .error .malformed

end WifiScan.Json

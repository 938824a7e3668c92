import WifiScan.Hex

/-!
# JSON values and their written forms

The values that the library writes, in a compact form on one line and in an indented form. Members
are written in the order of the list. Text is written as it is, except for quotes, backslashes and
control characters, which are escaped.
-/
namespace WifiScan

inductive Json where
  | null
  | bool (value : Bool)
  | int (value : Int)
  | text (value : String)
  | list (items : List Json)
  | object (members : List (String × Json))
  deriving Inhabited

namespace Json

/-- How one character of a text is written. -/
def escape (c : Char) : List Char :=
  if c = '"' then ['\\', '"']
  else if c = '\\' then ['\\', '\\']
  else if c = '\n' then ['\\', 'n']
  else if c = '\r' then ['\\', 'r']
  else if c = '\t' then ['\\', 't']
  else if c = '\x08' then ['\\', 'b']
  else if c = '\x0c' then ['\\', 'f']
  else if c.toNat < 0x20 then '\\' :: 'u' :: Hex.lower 4 c.toNat
  else [c]

def quote (s : String) : List Char := '"' :: s.toList.flatMap escape ++ ['"']

def digits : Int → List Char
  | .ofNat n => Nat.toDigits 10 n
  | .negSucc n => '-' :: Nat.toDigits 10 (n + 1)

/-- The words for the values without content. -/
def boolWord : Bool → List Char
  | true => ['t', 'r', 'u', 'e']
  | false => ['f', 'a', 'l', 's', 'e']

def nullWord : List Char := ['n', 'u', 'l', 'l']

mutual

/-- The form on one line, without blanks. -/
def compact : Json → List Char
  | null => nullWord
  | bool b => boolWord b
  | int i => digits i
  | text s => quote s
  | list [] => ['[', ']']
  | list (j :: js) => '[' :: compact j ++ compactItems js
  | object [] => ['{', '}']
  | object ((k, j) :: ms) => '{' :: quote k ++ ':' :: compact j ++ compactMembers ms

/-- The items after the first, and the closing bracket. -/
def compactItems : List Json → List Char
  | [] => [']']
  | j :: js => ',' :: compact j ++ compactItems js

/-- The members after the first, and the closing brace. -/
def compactMembers : List (String × Json) → List Char
  | [] => ['}']
  | (k, j) :: ms => ',' :: quote k ++ ':' :: compact j ++ compactMembers ms

end

/-- A line break and `depth` steps of indentation. -/
def newline (depth : Nat) : List Char := '\n' :: List.replicate (2 * depth) ' '

mutual

/-- The form with one item or member a line, indented by two blanks a level. -/
def indented (depth : Nat) : Json → List Char
  | null => nullWord
  | bool b => boolWord b
  | int i => digits i
  | text s => quote s
  | list [] => ['[', ']']
  | list (j :: js) =>
    '[' :: newline (depth + 1) ++ indented (depth + 1) j ++ indentedItems depth js
  | object [] => ['{', '}']
  | object ((k, j) :: ms) =>
    '{' :: newline (depth + 1) ++ quote k ++ ':' :: ' ' :: indented (depth + 1) j ++
      indentedMembers depth ms

/-- The items after the first, and the closing bracket on a line of its own. -/
def indentedItems (depth : Nat) : List Json → List Char
  | [] => newline depth ++ [']']
  | j :: js => ',' :: newline (depth + 1) ++ indented (depth + 1) j ++ indentedItems depth js

/-- The members after the first, and the closing brace on a line of its own. -/
def indentedMembers (depth : Nat) : List (String × Json) → List Char
  | [] => newline depth ++ ['}']
  | (k, j) :: ms =>
    ',' :: newline (depth + 1) ++ quote k ++ ':' :: ' ' :: indented (depth + 1) j ++
      indentedMembers depth ms

end

def toLine (j : Json) : String := String.ofList j.compact

def toLines (j : Json) : String := String.ofList (j.indented 0)

end Json

end WifiScan

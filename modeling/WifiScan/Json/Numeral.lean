/-!
# Numbers in JSON text

A number is read in its written parts first. Its value is an integer only where it is written
without fraction and exponent and fits in 64 bits; a number is out of range where the double
nearest to it is infinite.
-/
namespace WifiScan.Json

inductive NumeralFault where
  /-- The text ends where a digit has to follow. -/
  | ended
  /-- Another character stands where a digit has to follow, or a zero leads. -/
  | unexpected
  deriving DecidableEq, Repr

/-- A number in its written parts. -/
structure Numeral where
  negative : Bool
  whole : List Char
  fraction : List Char
  exponent : Option Int
  deriving DecidableEq, Repr

namespace Numeral

/-- One digit or more, and the text after them. -/
def scanDigits (cs : List Char) : Except NumeralFault (List Char × List Char) :=
  match cs with
  | [] => .error .ended
  | c :: _ =>
    if c.isDigit then .ok (cs.takeWhile Char.isDigit, cs.dropWhile Char.isDigit)
    else .error .unexpected

/-- The part before a point: a zero that leads is the only digit. -/
def scanWhole (cs : List Char) : Except NumeralFault (List Char × List Char) := do
  let (ds, rest) ← scanDigits cs
  match ds with
  | '0' :: _ :: _ => .error .unexpected
  | _ => .ok (ds, rest)

/-- A point with the digits after it, or nothing. -/
def scanFraction (cs : List Char) : Except NumeralFault (List Char × List Char) :=
  match cs with
  | '.' :: rest => scanDigits rest
  | _ => .ok ([], cs)

/-- The digits of an exponent, with its sign. -/
def scanSigned (cs : List Char) : Except NumeralFault (Int × List Char) :=
  match cs with
  | '-' :: rest => (scanDigits rest).map fun (ds, r) => (-(Nat.ofDigitChars 10 ds 0 : Int), r)
  | '+' :: rest => (scanDigits rest).map fun (ds, r) => ((Nat.ofDigitChars 10 ds 0 : Int), r)
  | _ => (scanDigits cs).map fun (ds, r) => ((Nat.ofDigitChars 10 ds 0 : Int), r)

def scanExponent (cs : List Char) : Except NumeralFault (Option Int × List Char) :=
  match cs with
  | 'e' :: rest | 'E' :: rest => (scanSigned rest).map fun (e, r) => (some e, r)
  | _ => .ok (none, cs)

def scanUnsigned (negative : Bool) (cs : List Char) :
    Except NumeralFault (Numeral × List Char) := do
  let (whole, rest) ← scanWhole cs
  let (fraction, rest) ← scanFraction rest
  let (exponent, rest) ← scanExponent rest
  return (⟨negative, whole, fraction, exponent⟩, rest)

/-- The longest number at the front of a text, and the text after it. -/
def scan (cs : List Char) : Except NumeralFault (Numeral × List Char) :=
  match cs with
  | '-' :: rest => scanUnsigned true rest
  | _ => scanUnsigned false cs

/-- The integer that is written. Minus zero is none, nor is a number beyond 64 bits. -/
def integer? (n : Numeral) : Option Int :=
  if n.fraction = [] ∧ n.exponent = none then
    let m := Nat.ofDigitChars 10 n.whole 0
    if n.negative then if 0 < m ∧ Int64.minValue.toInt ≤ -(m : Int) then some (-m) else none
    else if m < UInt64.size then some m else none
  else none

/-- Appends digits to a significand as long as it fits in 64 bits, and returns the digits left. -/
def absorb (significand : Nat) : List Char → Nat × List Char
  | [] => (significand, [])
  | c :: cs =>
    let next := Nat.ofDigitChars 10 [c] significand
    if next < UInt64.size then absorb next cs else (significand, c :: cs)

/-- The number of 53 significant bits nearest to `n`; a tie goes to the even one. -/
def roundToDouble (n : Nat) : Nat :=
  if n.log2 < 53 then n
  else
    let shift := n.log2 - 52
    let q := n >>> shift
    let r := n - q <<< shift
    let half := 1 <<< (shift - 1)
    (if half < r ∨ (r = half ∧ q % 2 = 1) then q + 1 else q) <<< shift

/-- The least number that is rounded to infinity. -/
def infiniteFrom : Nat := 1 <<< 1024 - 1 <<< 970

/-- Whether `significand · 10 ^ scale`, computed with doubles, is infinite. -/
def overflows (significand : Nat) (scale : Int) : Bool :=
  significand ≠ 0 && 0 ≤ scale &&
    (308 < scale ||
      infiniteFrom ≤ roundToDouble significand * roundToDouble (Nat.pow 10 scale.toNat))

/-- Whether the number is finite as a double. -/
def isFinite (n : Numeral) : Bool :=
  let (s, dropped) := absorb 0 n.whole
  let (s, ignored) := absorb s n.fraction
  let scale : Int := dropped.length - (n.fraction.length - ignored.length : Nat)
  !overflows s (scale + n.exponent.getD 0)

end Numeral

end WifiScan.Json

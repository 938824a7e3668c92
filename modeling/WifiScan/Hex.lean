/-!
# Hexadecimal digits

Numbers in base sixteen, in lower or upper case, filled with zeros on the left to a least width.
-/
namespace WifiScan.Hex

/-- Fills a text with zeros on the left to at least `width` characters. -/
def zeroFill (width : Nat) (cs : List Char) : List Char :=
  List.replicate (width - cs.length) '0' ++ cs

/-- The lower-case digits of `n`, at least `width` of them. -/
def lower (width n : Nat) : List Char := zeroFill width (Nat.toDigits 16 n)

/-- The upper-case digits of `n`, at least `width` of them. -/
def upper (width n : Nat) : List Char := (lower width n).map Char.toUpper

/-- The value of one digit of either case. -/
def digitValue? (c : Char) : Option Nat :=
  if '0' ≤ c ∧ c ≤ '9' then some (c.toNat - '0'.toNat)
  else if 'a' ≤ c ∧ c ≤ 'f' then some (c.toNat - 'a'.toNat + 10)
  else if 'A' ≤ c ∧ c ≤ 'F' then some (c.toNat - 'A'.toNat + 10)
  else none

end WifiScan.Hex

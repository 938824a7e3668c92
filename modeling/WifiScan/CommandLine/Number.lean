import WifiScan.Word

/-!
# Numbers in arguments

A whole number is written in ASCII decimal digits after an optional sign. Zeros may lead. A minus
sign is refused before a number of 64 bits without sign, whatever follows it; a narrower number only
has to lie in its range.
-/
namespace WifiScan.CommandLine

/-- The number that digits write. -/
def ofDigits? (ds : List Char) : Option Int :=
  if ds = [] ∨ ds.any (!·.isDigit) then none else some (Nat.ofDigitChars 10 ds 0)

/-- The number that a text writes, without a minus sign. -/
def natural? (s : String) : Option Int :=
  match s.toList with
  | '+' :: ds => ofDigits? ds
  | ds => ofDigits? ds

/-- The number that a text writes, with or without a minus sign. -/
def integer? (s : String) : Option Int :=
  match s.toList with
  | '-' :: ds => (ofDigits? ds).map (- ·)
  | _ => natural? s

def readUInt32? (s : String) : Option UInt32 := integer? s >>= Word.uint32?

def readInt32? (s : String) : Option Int32 := integer? s >>= Word.int32?

def readUInt64? (s : String) : Option UInt64 := natural? s >>= Word.uint64?

end WifiScan.CommandLine

/-!
# Words

Integers of fixed width from whole numbers that fit.
-/
namespace WifiScan.Word

def uint8? (i : Int) : Option UInt8 :=
  if 0 ≤ i ∧ i < UInt8.size then some (.ofNat i.toNat) else none

def uint32? (i : Int) : Option UInt32 :=
  if 0 ≤ i ∧ i < UInt32.size then some (.ofNat i.toNat) else none

def uint64? (i : Int) : Option UInt64 :=
  if 0 ≤ i ∧ i < UInt64.size then some (.ofNat i.toNat) else none

def int32? (i : Int) : Option Int32 :=
  if Int32.minValue.toInt ≤ i ∧ i ≤ Int32.maxValue.toInt then some (.ofInt i) else none

end WifiScan.Word

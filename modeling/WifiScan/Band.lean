import WifiScan.ChannelError

/-!
# Bands

A band stands for a set of the three sub-bands 2.4 GHz, 5 GHz and 5 GHz with radar detection (DFS).
The set is written as a mask of three bits. Not every mask has a band: 2.4 GHz together with DFS
alone has none.
-/
namespace WifiScan

/-- A set of sub-bands: bit 0 is 2.4 GHz, bit 1 is 5 GHz, bit 2 is 5 GHz DFS. -/
abbrev BandMask := BitVec 3

/-- A named set of sub-bands. -/
inductive Band where
  | unspecified
  | ghz24
  | ghz5
  | ghz5DfsOnly
  | ghz5WithDfs
  | both
  | bothWithDfs
  deriving DecidableEq, Repr, Inhabited

namespace Band

def mask : Band → BandMask
  | unspecified => 0
  | ghz24 => 1
  | ghz5 => 2
  | ghz5DfsOnly => 4
  | ghz5WithDfs => 6
  | both => 3
  | bothWithDfs => 7

def bits (b : Band) : UInt32 := UInt32.ofNat b.mask.toNat

/-- Every band, by ascending mask. -/
def all : List Band :=
  [unspecified, ghz24, ghz5, both, ghz5DfsOnly, ghz5WithDfs, bothWithDfs]

/-- The name shown to people. -/
def name : Band → String
  | unspecified => "Unspecified"
  | ghz24 => "2.4 GHz"
  | ghz5 => "5 GHz"
  | ghz5DfsOnly => "5 GHz (DFS only)"
  | ghz5WithDfs => "5 GHz (with DFS)"
  | both => "2.4 GHz + 5 GHz"
  | bothWithDfs => "2.4 GHz + 5 GHz (with DFS)"

/-- The band with a given mask, if one is named. -/
def ofMask? (m : BandMask) : Option Band := all.find? (·.mask = m)

def ofBits (bits : UInt32) : Except ChannelError Band :=
  match all.find? (·.bits = bits) with
  | some b => .ok b
  | none => .error (.invalidBand bits)

/-- Whether every sub-band of `other` is one of `b`. -/
def includes (b other : Band) : Bool := b.mask &&& other.mask = other.mask

/-- The band of all sub-bands of two bands. The one union without a name, 2.4 GHz with DFS alone,
becomes the whole of both bands. -/
def union (a b : Band) : Band := (ofMask? (a.mask ||| b.mask)).getD bothWithDfs

end Band

end WifiScan

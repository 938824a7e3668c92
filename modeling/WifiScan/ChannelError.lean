import WifiScan.Hex

/-!
# Channel errors

What can be wrong with a band mask, a frequency table or a frequency, and how each is worded.
-/
namespace WifiScan

/-- A centre frequency in MHz. -/
abbrev Frequency := UInt32

inductive ChannelError where
  /-- No band has these bits. -/
  | invalidBand (bits : UInt32)
  /-- A frequency was put in two sub-bands. -/
  | overlappingBands (frequency : Frequency)
  /-- No channel has this frequency. -/
  | unknownFrequency (frequency : Frequency)
  deriving DecidableEq, Repr

/-- Bits are written in hexadecimal, with two digits at least. -/
def ChannelError.message : ChannelError → String
  | .invalidBand bits => "invalid band bitmask: 0x" ++ String.ofList (Hex.upper 2 bits.toNat)
  | .overlappingBands f =>
    "frequency " ++ toString f.toNat ++ " MHz appears in more than one sub-band"
  | .unknownFrequency f => "no channel number for frequency " ++ toString f.toNat ++ " MHz"

end WifiScan

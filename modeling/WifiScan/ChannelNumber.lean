import WifiScan.ChannelError

/-!
# Channel numbers

The numbering of 2.4 GHz and 5 GHz channels: channel `c` of 2.4 GHz lies 5 MHz above channel `c - 1`
from 2412 MHz on, with channel 14 apart at 2484 MHz; channel `c` of 5 GHz lies at 5000 + 5c MHz.
-/
namespace WifiScan

/-- The channel whose centre is a frequency. -/
def Frequency.toChannel (f : Frequency) : Except ChannelError UInt32 :=
  if f = 2484 then .ok 14
  else if 2412 ≤ f ∧ f ≤ 2472 ∧ (f - 2407) % 5 = 0 then .ok ((f - 2407) / 5)
  else if 5160 ≤ f ∧ f ≤ 5885 ∧ f % 5 = 0 then .ok ((f - 5000) / 5)
  else .error (.unknownFrequency f)

/-- The centre of a channel. -/
def Frequency.ofChannel? (channel : UInt32) : Option Frequency :=
  if 1 ≤ channel ∧ channel ≤ 13 then some (2407 + 5 * channel)
  else if channel = 14 then some 2484
  else if 32 ≤ channel ∧ channel ≤ 177 then some (5000 + 5 * channel)
  else none

end WifiScan

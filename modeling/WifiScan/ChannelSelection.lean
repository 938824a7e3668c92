import WifiScan.FrequencyTable

/-!
# Channel selections

The channels chosen for a scan: any number of bands and single frequencies, over a frequency table.
A selection says which frequencies are scanned and, by its policy, at which frequencies a result is
believed.
-/
namespace WifiScan

/-- Where a scan may validly find something. -/
inductive ValidityPolicy where
  | matchScan
  /-- Anywhere in a sub-band that the scan touches. -/
  | wholeBand
  deriving DecidableEq, Repr, Inhabited

structure ChannelSelection where
  table : FrequencyTable
  policy : ValidityPolicy
  /-- The sub-bands of all chosen bands. -/
  mask : BandMask
  /-- The frequencies chosen one by one. -/
  channels : FrequencySet
  deriving DecidableEq

namespace ChannelSelection

def empty (table : FrequencyTable) (policy : ValidityPolicy) : ChannelSelection :=
  ⟨table, policy, 0, ∅⟩

def addBand (s : ChannelSelection) (b : Band) : ChannelSelection :=
  { s with mask := s.mask ||| b.mask }

def addChannel (s : ChannelSelection) (f : Frequency) : ChannelSelection :=
  { s with channels := s.channels.insert f }

def addChannels (s : ChannelSelection) (fs : List Frequency) : ChannelSelection :=
  { s with channels := .ofList fs ∪ s.channels }

def clear (s : ChannelSelection) : ChannelSelection := empty s.table s.policy

def isEmpty (s : ChannelSelection) : Bool := s.mask = 0 && s.channels.isEmpty

/-- Whether all of a band was chosen by bands; nothing chooses the unspecified band. -/
def containsBand (s : ChannelSelection) (b : Band) : Bool :=
  b ≠ .unspecified && s.mask &&& b.mask = b.mask

/-- Whether a frequency was chosen, by itself or with its sub-band. -/
def containsChannel (s : ChannelSelection) (f : Frequency) : Bool :=
  f ∈ s.channels || (s.table.bandOf? f).any fun b => s.mask &&& b.mask ≠ 0

def scanFrequencies (s : ChannelSelection) : FrequencySet := s.table.expand s.mask ∪ s.channels

/-- The sub-bands that the selection touches. -/
def touched (s : ChannelSelection) : BandMask :=
  s.channels.toList.foldl (fun m f => m ||| ((s.table.bandOf? f).elim 0 Band.mask)) s.mask

/-- The frequencies at which a result is believed. -/
def validFrequencies (s : ChannelSelection) : FrequencySet :=
  match s.policy with
  | .matchScan => s.scanFrequencies
  | .wholeBand => s.table.expand s.touched ∪ s.channels

/-- Whether the scan covers the whole table. -/
def coversTable (s : ChannelSelection) : Bool := s.table.frequencies ⊆ s.scanFrequencies

end ChannelSelection

end WifiScan

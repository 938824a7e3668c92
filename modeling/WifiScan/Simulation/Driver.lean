import WifiScan.Engine.Driver

/-!
# Simulated drivers

A virtual driver knows the access points in range. It remembers, for each class, the frequencies of
the last command that it took; a scan finds the access points at these, and whatever cached results
were put in. A scripted driver gives the results that it was told to give.
-/
namespace WifiScan

structure VirtualAccessPoint where
  ssid : String
  bssid : String
  frequency : Frequency
  rssi : Int32
  capabilities : String
  deriving DecidableEq, Repr

/-- The result of seeing an access point at a time. -/
def VirtualAccessPoint.observe (ap : VirtualAccessPoint) (now : UInt64) : ScanResult where
  ssid := ap.ssid
  bssid := ap.bssid
  rssi := ap.rssi
  frequency := ap.frequency
  timestampUs := now
  capabilities := ap.capabilities
  informationElements := []

structure IssuedScan where
  scanClass : ScanClass
  frequencies : FrequencySet
  hiddenNetworkIds : NetworkIds
  deriving DecidableEq

structure VirtualDriverConfig where
  interface : String
  accessPoints : List VirtualAccessPoint
  deriving DecidableEq, Repr

/-- A neighbourhood of five access points on `wlan0`. -/
def VirtualDriverConfig.standard : VirtualDriverConfig where
  interface := "wlan0"
  accessPoints := [
    ⟨"HomeNet", "3c:84:6a:01:02:03", 2437, -48, ""⟩,
    ⟨"HomeNet-5G", "3c:84:6a:01:02:04", 5180, -55, ""⟩,
    ⟨"CoffeeShop", "a4:2b:b0:10:20:30", 2412, -71, ""⟩,
    ⟨"Neighbor", "f0:9f:c2:aa:bb:cc", 2462, -83, ""⟩,
    ⟨"Office-DFS", "00:1a:1e:44:55:66", 5500, -67, ""⟩]

structure VirtualDriver where
  interface : String
  accepting : Bool
  accessPoints : List VirtualAccessPoint
  /-- Results given with every scan, whatever their frequency. -/
  stale : List ScanResult
  /-- Every command, taken or refused. -/
  issued : List IssuedScan
  /-- The frequencies of the last command taken of each class. -/
  lastFrequencies : PerClass (Option FrequencySet)
  /-- The commands taken that the subscriber has not read; `none` without a subscriber. -/
  subscriber : Option (List IssuedScan)
  deriving DecidableEq

namespace VirtualDriver

def initial (config : VirtualDriverConfig) : VirtualDriver :=
  ⟨config.interface, true, config.accessPoints, [], [], .both none, none⟩

def setAccepting (d : VirtualDriver) (value : Bool) : VirtualDriver :=
  { d with accepting := value }

def addAccessPoint (d : VirtualDriver) (ap : VirtualAccessPoint) : VirtualDriver :=
  { d with accessPoints := d.accessPoints ++ [ap] }

def setAccessPoints (d : VirtualDriver) (aps : List VirtualAccessPoint) : VirtualDriver :=
  { d with accessPoints := aps }

def addStale (d : VirtualDriver) (result : ScanResult) : VirtualDriver :=
  { d with stale := d.stale ++ [result] }

/-- Starts telling a new subscriber, in place of any before it, of the commands taken. -/
def subscribe (d : VirtualDriver) : VirtualDriver := { d with subscriber := some [] }

def unsubscribe (d : VirtualDriver) : VirtualDriver := { d with subscriber := none }

/-- What the subscriber has not read, which it reads. -/
def drain (d : VirtualDriver) : List IssuedScan × VirtualDriver :=
  (d.subscriber.getD [], { d with subscriber := d.subscriber.map fun _ => [] })

def command (d : VirtualDriver) (c : ScanClass) (frequencies : FrequencySet)
    (hidden : NetworkIds) : Bool × VirtualDriver :=
  let scan : IssuedScan := ⟨c, frequencies, hidden⟩
  let d := { d with issued := d.issued ++ [scan] }
  if d.accepting then
    (true, { d with
      lastFrequencies := d.lastFrequencies.set c (some frequencies)
      subscriber := d.subscriber.map (· ++ [scan]) })
  else (false, d)

/-- The access points at the frequencies of the last command, seen now, and the cached results;
nothing before a command was taken. -/
def results (d : VirtualDriver) (c : ScanClass) (now : UInt64) : List ScanResult :=
  match d.lastFrequencies.get c with
  | none => []
  | some fs => ((d.accessPoints.filter (·.frequency ∈ fs)).map (·.observe now)) ++ d.stale

instance : ScanDriver VirtualDriver where
  interface := interface
  command := command
  results d c now := (d.results c now, d)

end VirtualDriver

/-- A driver that gives the results it was told to give. -/
structure ScriptedDriver where
  interface : String
  accepting : Bool
  results : PerClass (List ScanResult)
  deriving DecidableEq

namespace ScriptedDriver

def initial (interface : String) : ScriptedDriver := ⟨interface, true, .both []⟩

instance : ScanDriver ScriptedDriver where
  interface := interface
  command d _ _ _ := (d.accepting, d)
  results d c _ := (d.results.get c, d)

end ScriptedDriver

end WifiScan

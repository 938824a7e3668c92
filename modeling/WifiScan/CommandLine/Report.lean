import WifiScan.ChannelNumber
import WifiScan.Format.Scan
import WifiScan.Simulation.Session

/-!
# Reports

What the program prints: the results of a scan in columns or as JSON, and the frequencies of the
bands. A text in a column is filled with blanks up to the column's width, which counts characters; a
longer text is not cut.
-/
namespace WifiScan.CommandLine

def padRight (width : Nat) (s : String) : String :=
  s ++ String.ofList (List.replicate (width - s.length) ' ')

def padLeft (width : Nat) (s : String) : String :=
  String.ofList (List.replicate (width - s.length) ' ') ++ s

/-- A text as lines, each of which ends. -/
def unlines (lines : List String) : String := String.join (lines.map (· ++ "\n"))

/-- The number of the channel at a frequency, if it is one. -/
def channelText? (f : Frequency) : Option String :=
  match f.toChannel with
  | .ok channel => some (toString channel.toNat)
  | .error _ => none

def resultLine (r : ScanResult) : String :=
  " ".intercalate [padRight 24 r.ssid, padRight 17 r.bssid,
    padLeft 5 (toString r.rssi.toInt), "dBm", padLeft 5 (toString r.frequency.toNat), "MHz", "ch",
    padLeft 3 ((channelText? r.frequency).getD "-")]

def dataLines (d : ScanData) : List String :=
  ("Scan #" ++ toString d.id.toNat ++ ": " ++ toString d.results.length ++ " result(s)") ::
    d.results.map fun r => "  " ++ resultLine r

def reportedLine (r : ScanResult) (bucket : Nat) : String :=
  "+ [bucket " ++ toString bucket ++ "] " ++ resultLine r

/-- The report of a scan that brought results: in columns, after the results reported one by one, or
the results alone as JSON. -/
def reportLines (json : Bool) (r : ScanReport) : List String :=
  if json then [ScanData.codec.encodeLines r.data]
  else r.reported.map (fun (result, bucket) => reportedLine result bucket) ++ dataLines r.data

def frequencyText (f : Frequency) : String :=
  toString f.toNat ++
    match channelText? f with
    | some channel => " (ch " ++ channel ++ ")"
    | none => ""

def bandLine (t : FrequencyTable) (b : Band) : String :=
  padRight 12 b.name ++ " " ++ ", ".intercalate ((t.ofBand b).toList.map frequencyText)

/-- The frequencies of each band that has sub-bands. -/
def bandLines (t : FrequencyTable) : List String :=
  (Band.all.filter (· ≠ .unspecified)).map (bandLine t)

end WifiScan.CommandLine

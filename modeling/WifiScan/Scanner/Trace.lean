import WifiScan.Format.Scan
import WifiScan.Scanner.Basic
import WifiScan.Text.Invisible

/-!
# Traces

How commands and requests are written in traces: a name with its fields between braces. A record
that does not show all of its fields ends with two points.
-/
namespace WifiScan.Trace

/-- Texts side by side, with a comma between two. -/
def commaSeparated (items : List String) : String := ", ".intercalate items

/-- A record that shows all of its fields. -/
def record (name : String) (fields : List (String × String)) : String :=
  name ++ " \x7b " ++ commaSeparated (fields.map fun (k, v) => k ++ ": " ++ v) ++ " \x7d"

/-- A record that shows some of its fields. -/
def openRecord (name : String) (fields : List (String × String)) : String :=
  name ++ " \x7b " ++ commaSeparated (fields.map fun (k, v) => k ++ ": " ++ v) ++ ", .. \x7d"

def call (name argument : String) : String := name ++ "(" ++ argument ++ ")"

def list (items : List String) : String := "[" ++ commaSeparated items ++ "]"

def set (items : List String) : String := "\x7b" ++ commaSeparated items ++ "\x7d"

def option : Option String → String
  | none => "None"
  | some s => call "Some" s

def bool : Bool → String
  | true => "true"
  | false => "false"

/-- How one character of a text is written. Invisible characters are written as their numbers. -/
def escape (c : Char) : List Char :=
  if c = '\x00' then ['\\', '0']
  else if c = '\t' then ['\\', 't']
  else if c = '\n' then ['\\', 'n']
  else if c = '\r' then ['\\', 'r']
  else if c = '"' ∨ c = '\\' then ['\\', c]
  else if Text.isInvisible c then '\\' :: 'u' :: '{' :: Hex.lower 1 c.toNat ++ ['}']
  else [c]

def text (s : String) : String := String.ofList ('"' :: s.toList.flatMap escape ++ ['"'])

def nat (n : Nat) : String := toString n

def band (b : Band) : String := b.fileName

def scanClass (c : ScanClass) : String := c.fileName

def frequencies (fs : List Frequency) : List String := fs.map fun f => nat f.toNat

def bucketChannels : BucketChannels → String
  | .band b => call "Band" (band b)
  | .channels fs => call "Channels" (list (frequencies fs))

def bucket (b : BucketSettings) : String :=
  record "BucketSettings"
    [("period_ms", nat b.periodMs.toNat),
      ("report_events", call "ReportEvents" (nat b.reportEvents.bits.toNat)),
      ("channels", bucketChannels b.channels)]

def settings (s : ScanSettings) : String :=
  record "ScanSettings"
    [("base_period_ms", nat s.basePeriodMs.toNat),
      ("max_ap_per_scan", nat s.maxApPerScan.toNat),
      ("buckets", list (s.buckets.map bucket)),
      ("hidden_network_ids", set (s.hiddenNetworkIds.toList.map fun i => toString i.toInt))]

def tag (t : TimerTag) : String :=
  record "TimerTag" [("class", scanClass t.scanClass), ("epoch", nat t.epoch.toNat)]

def eventKind : DriverEventKind → String
  | .resultsAvailable => "ResultsAvailable"
  | .scanFailed => "ScanFailed"

def driverEvent (e : DriverEvent) : String :=
  record "DriverEvent"
    [("interface", text e.interface), ("class", scanClass e.scanClass),
      ("kind", eventKind e.kind)]

/-- A command; of a handler only its presence is shown. -/
def command : Command → String
  | .start c s handler =>
    openRecord "StartScan"
      [("class", scanClass c), ("settings", option (s.map settings)),
        ("has_handler", bool handler.isSome)]
  | .driverEvent e => record "DriverEvent" [("event", driverEvent e)]
  | .timerFired t => record "TimerFired" [("tag", tag t)]
  | .latest c => openRecord "QueryLatestResults" [("class", scanClass c)]
  | .scanning c => openRecord "QueryScanning" [("class", scanClass c)]
  | .shutdown => "Shutdown"

/-- A request in flight, without its handler and the frequencies of its buckets. -/
def request (r : Request) : String :=
  openRecord "ScanRequestState"
    [("class", scanClass r.scanClass), ("epoch", nat r.epoch.toNat),
      ("settings", settings r.settings), ("start_time_us", nat r.startTimeUs.toNat),
      ("scan_frequencies", set (frequencies r.scanFrequencies.toList)),
      ("valid_frequencies", set (frequencies r.validFrequencies.toList))]

end WifiScan.Trace

import WifiScan.ChannelSelection
import WifiScan.Json.Codec

/-!
# The written forms of bands and tables
-/
namespace WifiScan

open Json

def Band.fileName : Band → String
  | unspecified => "Unspecified"
  | ghz24 => "Band24Ghz"
  | ghz5 => "Band5Ghz"
  | ghz5DfsOnly => "Band5GhzDfsOnly"
  | ghz5WithDfs => "Band5GhzWithDfs"
  | both => "Both"
  | bothWithDfs => "BothWithDfs"

def Band.codec : Codec Band := .names fileName all

def ValidityPolicy.fileName : ValidityPolicy → String
  | matchScan => "MatchScan"
  | wholeBand => "WholeBand"

def ValidityPolicy.codec : Codec ValidityPolicy := .names fileName [matchScan, wholeBand]

/-- A list of frequencies that is read as a set. -/
def FrequencySet.codec : Codec FrequencySet :=
  (Codec.list .uint32).refine (fun fs => .ok (.ofList fs)) AscendingSet.toList

/-- The fields of a table. A table whose sub-bands share a frequency is refused. -/
def FrequencyTable.fields : Fields (FrequencySet × FrequencySet × FrequencySet × Unit) :=
  .field "band_24_ghz" FrequencySet.codec none <|
  .field "band_5_ghz" FrequencySet.codec none <|
  .field "band_5_ghz_dfs" FrequencySet.codec none .done

def FrequencyTable.codec : Codec FrequencyTable :=
  (Codec.record fields (fun (a, b, c, _) => (a, b, c)) fun (a, b, c) => (a, b, c, ())).refine
    (fun (a, b, c) => (ofSets a b c).mapError fun e => .refused e.message)
    fun t => (t.ghz24, t.ghz5, t.ghz5Dfs)

end WifiScan

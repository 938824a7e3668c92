import WifiScan.CommandLine.Flag
import WifiScan.CommandLine.Number
import WifiScan.CommandLine.ScanArguments

/-!
# Invocations

The commands of the program, the flags of each, and what an argument list asks for. The settings
file may be given at any command on the way; the innermost counts. The arguments of a subcommand are
read before a value that is still pending at the command above it.
-/
namespace WifiScan.CommandLine

inductive Task where
  | scan (args : ScanArguments)
  | listBands
  | showSettings
  | writeSettings
  | showPath
  deriving DecidableEq, Repr

structure Invocation where
  /-- The settings file, unless it is the default one. -/
  file : Option String
  task : Task
  deriving DecidableEq, Repr

/-- The names of the subcommands of the command at a path. -/
def subcommandsAt : List String → List String
  | [] => ["scan", "bands", "config", "help"]
  | ["config"] => ["show", "init", "path", "help"]
  | _ => []

/-! ### Values of flags -/

variable {σ τ β : Type}

/-- A value that is one of some names. -/
def choice (names : List (String × β)) (set : σ → β → σ) (s : σ) (value : String) :
    Except UsageError σ :=
  match names.lookup value with
  | some b => .ok (set s b)
  | none => .error .unknownValue

def number (read? : String → Option β) (set : σ → β → σ) (s : σ) (value : String) :
    Except UsageError σ :=
  match read? value with
  | some b => .ok (set s b)
  | none => .error .malformedValue

/-- A value that is a list of numbers with commas between them. -/
def numbers (read? : String → Option β) (set : σ → List β → σ) (s : σ) (value : String) :
    Except UsageError σ :=
  number (fun v => (v.splitOn ",").mapM read?) set s value

/-- The bands that can be asked for by name. -/
def bandNames : List (String × Band) :=
  [("2.4", .ghz24), ("5", .ghz5), ("dfs", .ghz5DfsOnly), ("5-dfs", .ghz5WithDfs), ("both", .both),
    ("all", .bothWithDfs)]

def outcomeNames : List (String × ScanOutcome) := ScanOutcome.all.map fun o => (o.fileName, o)

/-! ### Flags -/

/-- The same flag on a part of the values. -/
def Flag.onPart (get : τ → σ) (put : τ → σ → τ) (f : Flag σ) : Flag τ where
  long := f.long
  short := f.short
  action :=
    match f.action with
    | .stop answer => .stop answer
    | .switch set => .switch fun t => put t (set (get t))
    | .single set => .single fun t v => (set (get t) v).map (put t)
    | .repeated add => .repeated fun t v => (add (get t) v).map (put t)

/-- The flags of every command. A settings file has a name. -/
def commonFlags (path : List String) : List (Flag (Option String)) := [
  ⟨"config", none, .single fun _ v => if v = "" then .error .unknownValue else .ok (some v)⟩,
  ⟨"help", some 'h', .stop .help⟩,
  ⟨"version", some 'V', .stop (.version ("airscan" :: path))⟩]

def scanFlags : List (Flag ScanArguments) := [
  ⟨"band", some 'b', .single (choice bandNames fun a b => { a with band := some b })⟩,
  ⟨"channels", some 'c', .repeated (numbers readUInt32? fun a fs =>
    { a with channels := a.channels ++ fs })⟩,
  ⟨"background", none, .switch fun a => { a with background := true }⟩,
  ⟨"max-ap-per-scan", some 'n', .single (number readUInt64? fun a n =>
    { a with maxApPerScan := some n })⟩,
  ⟨"hidden", none,
    .repeated (numbers readInt32? fun a ids => { a with hidden := a.hidden ++ ids })⟩,
  ⟨"full-results", none, .switch fun a => { a with fullResults := true }⟩,
  ⟨"filter-invalid", none, .switch fun a => { a with filterInvalid := true }⟩,
  ⟨"timeout-ms", none, .single (number readUInt64? fun a n => { a with timeoutMs := some n })⟩,
  ⟨"latency-ms", none, .single (number readUInt64? fun a n => { a with latencyMs := some n })⟩,
  ⟨"outcome", none, .single (choice outcomeNames fun a o => { a with outcome := some o })⟩,
  ⟨"reject", none, .switch fun a => { a with reject := true }⟩,
  ⟨"json", none, .switch fun a => { a with json := true }⟩]

/-! ### Commands -/

/-- Reads the arguments of a command without subcommands, whose own flags come beside the common
ones. -/
def readLeaf (path : List String) (flags : List (Flag σ)) (blank : σ) (args : List String) :
    Except UsageError (Option String × σ) := do
  let flags :=
    (commonFlags path).map (.onPart Prod.fst fun v file => (file, v.2)) ++
      flags.map (.onPart Prod.snd fun v s => (v.1, s))
  let (r, _) ← Reading.read flags [] (.initial (none, blank)) args
  return (← r.settle).values

/-- Reads the arguments of a command without subcommands and without flags of its own. -/
def readPlain (path : List String) (task : Task) (args : List String) :
    Except UsageError Invocation := do
  let (file, _) ← readLeaf path [] () args
  return ⟨file, task⟩

/-- Reads the arguments of a scan. A band and channels exclude each other. -/
def readScan (args : List String) : Except UsageError Invocation := do
  let (file, a) ← readLeaf ["scan"] scanFlags .empty args
  if a.band.isSome ∧ a.channels ≠ [] then .error .conflict
  return ⟨file, .scan a⟩

/-- Reads the arguments of a command that requires a subcommand. -/
def readBranch (path : List String) (enter : String → List String → Except UsageError Invocation)
    (args : List String) : Except UsageError Invocation := do
  let (r, stop) ← Reading.read (commonFlags path) (subcommandsAt path) (.initial none) args
  match stop with
  | .ended => .error (if (← r.settle).given = [] then .nothingGiven else .missingCommand)
  | .subcommand name rest =>
    -- What is wrong inside the subcommand comes before a value pending here.
    let inner ← enter name rest
    return { inner with file := inner.file.or (← r.settle).values }

/-- What asking for help on the command at the end of some names comes to. -/
def helpOn : List String → List String → UsageError
  | _, [] => .help
  | path, name :: names =>
    if name ∈ subcommandsAt path then helpOn (path ++ [name]) names else .unknownCommand

def readConfigCommand (name : String) (args : List String) : Except UsageError Invocation :=
  match name with
  | "show" => readPlain ["config", "show"] .showSettings args
  | "init" => readPlain ["config", "init"] .writeSettings args
  | "path" => readPlain ["config", "path"] .showPath args
  | _ => .error (helpOn ["config"] args)

def readCommand (name : String) (args : List String) : Except UsageError Invocation :=
  match name with
  | "scan" => readScan args
  | "bands" => readPlain ["bands"] .listBands args
  | "config" => readBranch ["config"] readConfigCommand args
  | _ => .error (helpOn [] args)

/-- What an argument list, without the program's name, asks for. -/
def Invocation.ofArguments (args : List String) : Except UsageError Invocation :=
  readBranch [] readCommand args

end WifiScan.CommandLine

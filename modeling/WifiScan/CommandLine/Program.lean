import WifiScan.CommandLine.Invocation
import WifiScan.CommandLine.Report
import WifiScan.Storage

/-!
# The program

What one run of the program does: it reads its arguments, then the settings, then carries out the
task. A run ends with what it printed and an exit code: 0, or 1 after a failure, or 2 after wrong
arguments.
-/
namespace WifiScan.CommandLine

/-- The directories that the settings may lie under. -/
structure Environment where
  /-- The directory for settings of all programs. It counts only if it is an absolute path. -/
  configHome : Option String
  /-- The caller's home directory. It counts unless it is empty. -/
  home : Option String
  /-- The home directory that the system knows for the caller. -/
  accountHome : Option String
  deriving DecidableEq, Repr

namespace Environment

def homeDirectory? (e : Environment) : Option String :=
  (e.home.filter (· ≠ "")).or e.accountHome

def settingsDirectory? (e : Environment) : Option String :=
  match e.configHome.filter Path.isAbsolute with
  | some path => some (Path.join path "airscan")
  | none => e.homeDirectory?.map fun home => Path.join (Path.join home ".config") "airscan"

def settingsFile? (e : Environment) : Option String :=
  e.settingsDirectory?.map (Path.join · "settings.json")

end Environment

inductive Failure where
  | unreadableSettings (path : String) (fault : StorageFault)
  | malformedSettings (path : String) (fault : Json.Fault)
  | noSettingsPath
  | noSettingsDirectory (path : String) (fault : StorageFault)
  | unwritableSettings (path : String) (fault : StorageFault)
  | scanRefused (scanClass : ScanClass) (error : ScanError)
  | scanFailed (scanClass : ScanClass)
  | scanUnfinished (scanClass : ScanClass)
  deriving DecidableEq, Repr

namespace Failure

def message : Failure → String
  | unreadableSettings path _ => "Failed to read settings from " ++ path
  | malformedSettings path _ => "Failed to parse settings in " ++ path
  | noSettingsPath => "Could not determine settings path"
  | noSettingsDirectory path _ => "Failed to create settings directory " ++ path
  | unwritableSettings path _ => "Failed to write settings to " ++ path
  | scanRefused c _ => "Failed to start " ++ c.name ++ " scan"
  | scanFailed c => c.name ++ " scan failed"
  | scanUnfinished c => c.name ++ " scan ended without a status"

/-- The words for what is behind the failure, if there are any. -/
def cause? : Failure → Option String
  | unreadableSettings _ fault | noSettingsDirectory _ fault | unwritableSettings _ fault =>
    some fault.message
  | malformedSettings _ fault =>
    match fault with
    | .malformed => "malformed JSON"
    | .truncated => "unexpected end of the text"
    | .mismatch => "a value does not fit"
    | .refused reason => reason
  | scanRefused _ error => some error.message
  | noSettingsPath | scanFailed _ | scanUnfinished _ => none

def report (f : Failure) : String :=
  unlines <| ("Error: " ++ f.message) ::
    match f.cause? with
    | some cause => ["", "Caused by:", "    " ++ cause]
    | none => []

end Failure

/-- What a run leaves behind on its streams, and its exit code. -/
structure RunResult where
  exitCode : UInt32
  stdout : String
  stderr : String
  deriving DecidableEq, Repr

variable {m : Type → Type} [Monad m]

/-- The configuration in the settings file. It is the standard one if there is no such file. -/
def loadSettings (storage : Storage m) (path : Option String) :
    ExceptT Failure m Configuration := do
  let some path := path | return .standard
  match ← storage.read? path with
  | .error fault => throw (.unreadableSettings path fault)
  | .ok none => return .standard
  | .ok (some text) =>
    match Configuration.codec.decode text with
    | .ok config => return config
    | .error fault => throw (.malformedSettings path fault)

/-- Writes a configuration to the settings file, in directories that are created as needed. -/
def saveSettings (storage : Storage m) (path : String) (config : Configuration) :
    ExceptT Failure m Unit := do
  if let some directory := Path.parent? path then
    if let .error fault ← storage.createDirectories directory then
      throw (.noSettingsDirectory directory fault)
  if let .error fault ← storage.write path (Configuration.codec.encodeLines config) then
    throw (.unwritableSettings path fault)

/-- The lines that a scan prints. -/
def scanLines [Wait] (clock : Nat → UInt64) (config : Configuration) (a : ScanArguments) :
    Except Failure (List String) :=
  match a.run clock config with
  | .error e => .error (.scanRefused a.scanClass e)
  | .ok report =>
    match report.status? with
    | some .resultsAvailable => .ok (reportLines a.json report)
    | some .failed => .error (.scanFailed a.scanClass)
    | none => .error (.scanUnfinished a.scanClass)

/-- Carries out what the program is asked to do, and returns the lines that it prints. -/
def Invocation.execute (storage : Storage m) (environment : Environment) (clock : Nat → UInt64)
    (i : Invocation) : ExceptT Failure m (List String) := do
  let path := i.file.or environment.settingsFile?
  let config ← loadSettings storage path
  match i.task, path with
  | .scan args, _ => scanLines clock config args
  | .listBands, _ => return bandLines config.engine.frequencyTable
  | .showSettings, _ => return [Configuration.codec.encodeLines config]
  | .writeSettings, some path =>
    saveSettings storage path config
    return ["Wrote " ++ path]
  | .showPath, some path => return [path]
  | .writeSettings, none | .showPath, none => throw .noSettingsPath

/-- What wrong arguments, or a request for help or for the version, print. -/
def UsageError.result (e : UsageError) : RunResult :=
  if e.exitCode = 0 then ⟨0, unlines [e.message], ""⟩
  else ⟨e.exitCode, "", unlines ["error: " ++ e.message]⟩

def run (storage : Storage m) (environment : Environment) (clock : Nat → UInt64)
    (args : List String) : m RunResult := do
  match Invocation.ofArguments args with
  | .error e => return e.result
  | .ok invocation =>
    match ← (invocation.execute storage environment clock).run with
    | .ok lines => return ⟨0, unlines lines, ""⟩
    | .error failure => return ⟨1, "", failure.report⟩

end WifiScan.CommandLine

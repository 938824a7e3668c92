import WifiScan.CommandLine.Program

/-!
# Command line

The program over the files of the machine.
-/
namespace WifiScan

/-- The fault behind an error of the machine. -/
def StorageFault.ofMachine (e : IO.Error) : StorageFault :=
  match e with
  | .noFileOrDirectory .. => .missing
  | .alreadyExists .. => .occupied
  | .inappropriateType _ code _ => if code = 21 then .isDirectory else .notDirectory
  | .invalidArgument _ 36 _ => .nameTooLong
  | e => .other (toString e)

/-- The result of an action, or the fault behind its error. -/
def withFault {α : Type} (action : IO α) : IO (Except StorageFault α) := do
  match ← action.toBaseIO with
  | .ok a => return .ok a
  | .error e => return .error (.ofMachine e)

def Storage.machine : Storage IO where
  read? path := do
    match ← withFault (IO.FS.readFile path) with
    | .ok text => return .ok (some text)
    | .error .missing | .error .notDirectory | .error .nameTooLong => return .ok none
    | .error fault => return .error fault
  createDirectories path := if path = "" then return .ok () else withFault (IO.FS.createDirAll path)
  write path text := withFault (IO.FS.writeFile path text)

end WifiScan

open WifiScan

def main (args : List String) : IO UInt32 := do
  let environment : CommandLine.Environment :=
    ⟨← IO.getEnv "XDG_CONFIG_HOME", ← IO.getEnv "HOME", none⟩
  let microseconds : Nat → UInt64 := fun ms => UInt64.ofNat (1000 * ms)
  let result ← CommandLine.run Storage.machine environment microseconds args
  IO.print result.stdout
  IO.eprint result.stderr
  return result.exitCode

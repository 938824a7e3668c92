import WifiScan.Storage

/-!
# A disk in memory

A tree of directories and files as a value, with a working directory in which relative paths start.
A path is followed name by name, and each name needs a directory to be looked up in.
-/
namespace WifiScan

inductive DiskEntry where
  | file (text : String)
  | directory (entries : List (String × DiskEntry))
  deriving Repr, Inhabited

namespace DiskEntry

def emptyDirectory : DiskEntry := directory []

def isDirectory : DiskEntry → Bool
  | file _ => false
  | directory _ => true

/-- A directory with an entry in place of the one that has its name. A file has no entries. -/
def put (e : DiskEntry) (name : String) (entry : DiskEntry) : DiskEntry :=
  match e with
  | file text => file text
  | directory entries => directory ((name, entry) :: entries.filter (·.1 ≠ name))

end DiskEntry

/-- A place on a disk, where there need not be anything. -/
structure Place where
  entry : Option DiskEntry
  /-- The names on the way from the root, the last one first, each with the directory that it is
  looked up in. -/
  way : List (String × DiskEntry)
  deriving Repr

namespace Place

/-- A name has at most 255 bytes. -/
def nameLimit : Nat := 255

/-- The place that a name leads to from another, which has to be a directory. -/
def step (here : Place) (name : String) : Except StorageFault Place :=
  match here.entry with
  | none => .error .missing
  | some (.file _) => .error .notDirectory
  | some (.directory entries) =>
    if Path.isIdle name then .ok here
    else if name = ".." then
      -- Above the root is the root.
      match here.way with
      | [] => .ok here
      | (_, above) :: way => .ok ⟨some above, way⟩
    else if nameLimit < name.utf8ByteSize then .error .nameTooLong
    else .ok ⟨entries.lookup name, (name, .directory entries) :: here.way⟩

def isDirectory (p : Place) : Bool := p.entry.any DiskEntry.isDirectory

/-- The root of the tree in which the place holds an entry. -/
def rootWith (p : Place) (entry : DiskEntry) : DiskEntry :=
  p.way.foldl (fun below (name, above) => above.put name below) entry

end Place

structure Disk where
  root : DiskEntry
  /-- The names on the way from the root to the working directory. -/
  workingDirectory : List String
  deriving Repr

namespace Disk

/-- A path has at most 4095 bytes. -/
def pathLimit : Nat := 4095

/-- The empty path leads nowhere, and a path that is too long is not followed at all. -/
def checkLength (path : String) : Except StorageFault Unit :=
  if path = "" then .error .missing
  else if pathLimit < path.utf8ByteSize then .error .nameTooLong
  else .ok ()

/-- The place that some names lead to from the root or from the working directory. -/
def follow (d : Disk) (fromRoot : Bool) (names : List String) : Except StorageFault Place :=
  (if fromRoot then names else d.workingDirectory ++ names).foldlM Place.step ⟨some d.root, []⟩

def locate (d : Disk) (path : String) : Except StorageFault Place := do
  checkLength path
  d.follow (Path.isAbsolute path) (Path.names path)

/-- A path that leads nowhere has nothing at it. -/
def read? (d : Disk) (path : String) : Except StorageFault (Option String) :=
  match (d.locate path).toOption.bind Place.entry with
  | none => .ok none
  | some (.file text) => .ok (some text)
  | some (.directory _) => .error .isDirectory

/-- Creates a directory where some names lead, unless it is there. -/
def ensureDirectory (d : Disk) (fromRoot : Bool) (names : List String) :
    Except StorageFault Disk := do
  let place ← d.follow fromRoot names
  if place.isDirectory then return d
  if place.entry.isSome then throw .occupied
  return { d with root := place.rootWith .emptyDirectory }

/-- Creates a directory where some names lead, given the last one first. If something is missing on
the way, then the directory above is created before it. -/
def createAlong (d : Disk) (fromRoot : Bool) : List String → Except StorageFault Disk
  | [] => .ok d
  | name :: above =>
    match d.ensureDirectory fromRoot (name :: above).reverse with
    | .error .missing => do
      -- Only now is the directory above looked at.
      let d ← d.createAlong fromRoot above
      d.ensureDirectory fromRoot (name :: above).reverse
    | result => result

/-- Creates the directories of a path; the empty path has none. -/
def createDirectories (d : Disk) (path : String) : Except StorageFault Disk := do
  if path = "" then return d
  checkLength path
  d.createAlong (Path.isAbsolute path) ((Path.names path).filter (!Path.isIdle ·)).reverse

/-- Puts a file at a path. A path that ends in a slash is that of a directory. -/
def write (d : Disk) (path text : String) : Except StorageFault Disk := do
  checkLength path
  match (Path.names path).reverse.dropWhile (· = "") with
  | [] => throw .isDirectory
  | name :: above =>
    let here ← d.follow (Path.isAbsolute path) above.reverse
    -- With a slash at the end the last name is not looked up at all.
    let place ← here.step (if path.endsWith '/' then "" else name)
    if place.isDirectory then throw .isDirectory
    return { d with root := place.rootWith (.file text) }

/-- What becomes of a disk that is written to. A fault leaves it as it was. -/
def update (write : Disk → Except StorageFault Disk) : StateM Disk (Except StorageFault Unit) :=
  fun d =>
    match write d with
    | .ok d => (.ok (), d)
    | .error fault => (.error fault, d)

end Disk

/-- The disk in a state monad. -/
def Storage.disk : Storage (StateM Disk) where
  read? path := fun d => (d.read? path, d)
  createDirectories path := Disk.update fun d => d.createDirectories path
  write path text := Disk.update fun d => d.write path text

end WifiScan

/-!
# Storage

Files by their paths, as a program sees them that reads and writes a few: what can be asked of them,
and why it fails. The names of a path stand between slashes; a path that starts with one is
absolute.
-/
namespace WifiScan

inductive StorageFault where
  | missing
  /-- There is something at the path already. -/
  | occupied
  /-- Something on the way is no directory. -/
  | notDirectory
  | isDirectory
  | nameTooLong
  | other (text : String)
  deriving DecidableEq, Repr

/-- The words for a fault, with its number. -/
def StorageFault.message : StorageFault → String
  | missing => "No such file or directory (os error 2)"
  | occupied => "File exists (os error 17)"
  | notDirectory => "Not a directory (os error 20)"
  | isDirectory => "Is a directory (os error 21)"
  | nameTooLong => "File name too long (os error 36)"
  | other text => text

/-- What can be asked of files, in a monad `m`. -/
structure Storage (m : Type → Type) where
  /-- The text of the file at a path; `none` if there is nothing at the path. -/
  read? : String → m (Except StorageFault (Option String))
  /-- Creates a directory and those on the way to it, unless they are there. -/
  createDirectories : String → m (Except StorageFault Unit)
  /-- Puts a file with a text at a path, in place of one that is there. -/
  write : String → String → m (Except StorageFault Unit)

namespace Path

/-- Whether a path starts at the root. -/
def isAbsolute (path : String) : Bool := path.startsWith "/"

/-- The stretches of a text between slashes. -/
def segments : List Char → List (List Char)
  | [] => [[]]
  | c :: cs =>
    if c = '/' then [] :: segments cs
    else
      match segments cs with
      | [] => [[c]]
      | segment :: rest => (c :: segment) :: rest

def names (path : String) : List String := (segments path.toList).map String.ofList

def join (path name : String) : String :=
  if path.endsWith "/" then path ++ name else path ++ "/" ++ name

/-- Whether a name leads nowhere: it is empty or the one dot. -/
def isIdle (name : String) : Bool := name = "" || name = "."

/-- Names less the idle ones at the end. -/
def trimNames (ns : List String) : List String := (ns.reverse.dropWhile isIdle).reverse

/-- The path less its last name, and less the idle names before that. Nothing lies above the
root. -/
def parent? (path : String) : Option String :=
  match names path with
  | [] => none
  | first :: rest =>
    match (trimNames rest).reverse with
    | [] => if first = "" then none else some ""
    | _ :: above =>
      match trimNames above.reverse with
      | [] => some (if first = "" then "/" else first)
      | kept => some ("/".intercalate (first :: kept))

end Path

end WifiScan

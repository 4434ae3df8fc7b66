import DashboardCheck.Text.Split
import DashboardCheck.Text.Utf8

/-!
Files and directories. A path is walked part by part from the root or from the working directory;
every part before the last has to be a directory.
-/
namespace DashboardCheck

open Text

inductive FileError where
  | notFound | notDirectory | isDirectory | nameTooLong
  /-- A name with a character that no name can have. -/
  | badName
  /-- The bytes of a file that write no text. -/
  | notText
  | other (text : String)
  deriving DecidableEq, Repr

def FileError.message : FileError → String
  | notFound => "No such file or directory (os error 2)"
  | notDirectory => "Not a directory (os error 20)"
  | isDirectory => "Is a directory (os error 21)"
  | nameTooLong => "File name too long (os error 36)"
  | badName => "file name contained an unexpected NUL byte"
  | notText => "stream did not contain valid UTF-8"
  | other text => text

/-- What stands at a place. -/
inductive Entry where
  | file (content : Bytes)
  | directory
  deriving DecidableEq, Repr

abbrev Place := List String

/-- The files and directories that there are. Directories on the way to an entry need no entry. -/
structure Disk where
  entries : List (Place × Entry)
  /-- The working directory. -/
  here : Place

namespace Disk

def placeBelow (here : Place) (path : String) : Place :=
  let parts := (pieces '/' path.toList).map String.ofList
  (if path.toList.head? = some '/' then [] else here) ++
    parts.filter fun part => part ≠ "" && part ≠ "."

/-- A disk with a working directory and what stands at these paths. -/
def ofFiles (here : Place) (files : List (String × Entry)) : Disk :=
  ⟨files.map fun (path, entry) => (placeBelow here path, entry), here⟩

def leadsOver (disk : Disk) (place : Place) : Bool :=
  place.isPrefixOf disk.here || disk.entries.any fun e => place.isPrefixOf e.1

def find? (disk : Disk) (place : Place) : Option Entry :=
  match disk.entries.find? fun e => e.1 == place with
  | some (_, entry) => some entry
  | none => if disk.leadsOver place then some .directory else none

def maxName : Nat := 255

def maxPath : Nat := 4095

def walk (disk : Disk) : Place → List String → Except FileError Place
  | place, [] => .ok place
  | place, part :: parts =>
    match disk.find? place with
    | none => .error .notFound
    | some (.file _) => .error .notDirectory
    | some .directory =>
      if part = "" || part = "." then disk.walk place parts
      else if part = ".." then disk.walk place.dropLast parts
      else if maxName < part.utf8ByteSize then .error .nameTooLong
      else disk.walk (place ++ [part]) parts

/-- The place that a path names. There need be nothing at it. -/
def resolve (disk : Disk) (path : String) : Except FileError Place :=
  if path.toList.contains '\x00' then .error .badName
  else if path.isEmpty then .error .notFound
  else if maxPath < path.utf8ByteSize then .error .nameTooLong
  else
    let parts := (pieces '/' path.toList).map String.ofList
    disk.walk (if path.toList.head? = some '/' then [] else disk.here) parts

def read (disk : Disk) (path : String) : Except FileError Bytes :=
  match disk.resolve path with
  | .error e => .error e
  | .ok place =>
    match disk.find? place with
    | none => .error .notFound
    | some .directory => .error .isDirectory
    | some (.file content) => .ok content

def readText (disk : Disk) (path : String) : Except FileError String :=
  match disk.read path with
  | .error e => .error e
  | .ok bytes =>
    match decode? bytes with
    | some text => .ok text
    | none => .error .notText

def put (disk : Disk) (place : Place) (content : Bytes) : Disk :=
  { disk with entries := (place, .file content) :: disk.entries }

def withoutSlashes (path : String) : String :=
  String.ofList (path.toList.reverse.dropWhile (· == '/')).reverse

def writtenPath (path : String) : String :=
  if (withoutSlashes path).isEmpty then path else withoutSlashes path

/-- Writes a file, which replaces one that is there. A path with a slash at its end names no
file. -/
def write (disk : Disk) (path : String) (content : Bytes) : Except FileError Disk :=
  match disk.resolve (writtenPath path) with
  | .error e => .error e
  | .ok place =>
    if withoutSlashes path ≠ path then .error .isDirectory
    else match disk.find? place with
      | some .directory => .error .isDirectory
      | _ => .ok (disk.put place content)

end Disk

end DashboardCheck

import Signalbox.CommandLine.Report

/-!
The files that the arguments of the command name. The command itself takes a path as it stands
and leaves the way to the file to the system, so that the rules of a path are here what they are
where it runs. There is a working directory that holds files and no further directories, the
directories above it, the root with its usual directories, and the null device. A file written
out there succeeds and is not seen again.
-/
namespace Signalbox.CommandLine

structure Directory where
  files : List (String × ByteArray)

inductive Place where
  | here
  /-- a directory above the working directory -/
  | above
  | root
  /-- one of the usual directories of the root -/
  | usual (name : String)
  /-- a file of the working directory -/
  | file (name : String)
  /-- the device that is empty and swallows what is written -/
  | nullDevice
deriving DecidableEq, Repr

namespace Place

def isDirectory : Place → Bool
  | .here | .above | .root | .usual _ => true
  | .file _ | .nullDevice => false

def parent : Place → Place
  | .root | .usual _ => .root
  | _ => .above

end Place

structure FilePath where
  start : Place
  parts : List String
  endsInSlash : Bool
deriving DecidableEq, Repr

namespace FilePath

/-- The bytes of a whole path, which must be fewer than this. -/
def lengthLimit : Nat := 4096

def longestName : Nat := 255

def ofString (path : String) : Except FileError FilePath :=
  if path.isEmpty then .error .notFound
  else if lengthLimit ≤ path.utf8ByteSize then .error .nameTooLong
  else .ok {
    start := if path.toList.head? = some '/' then .root else .here
    parts := ((path.toList.splitOn '/').filter (!·.isEmpty)).map String.ofList
    endsInSlash := path.toList.getLast? = some '/' }

def isDots (part : String) : Bool := part = "." || part = ".."

end FilePath

namespace Directory

def usualNames : List String :=
  ["bin", "boot", "dev", "etc", "home", "lib", "media", "mnt", "opt", "proc", "root", "run",
    "sbin", "srv", "sys", "tmp", "usr", "var"]

def child? (d : Directory) (place : Place) (name : String) : Option Place :=
  match place with
  | .here => if d.files.any (·.1 == name) then some (.file name) else none
  | .root => if usualNames.contains name then some (.usual name) else none
  | .usual "dev" => if name = "null" then some .nullDevice else none
  | _ => none

def enter (d : Directory) (place : Place) (part : String) : Except FileError Place :=
  if !place.isDirectory then .error .notDirectory
  else if part = "." then .ok place
  else if part = ".." then .ok place.parent
  else if FilePath.longestName < part.utf8ByteSize then .error .nameTooLong
  else
    match d.child? place part with
    | some p => .ok p
    | none => .error .notFound

def follow (d : Directory) (place : Place) (parts : List String) : Except FileError Place :=
  parts.foldlM d.enter place

def contents (d : Directory) : Place → ByteArray
  | .file name => (d.files.lookup name).getD .empty
  | _ => .empty

def read (d : Directory) (path : String) : Except FileError ByteArray := do
  let p ← FilePath.ofString path
  let place ← d.follow p.start p.parts
  if place.isDirectory then throw .isDirectory
  if p.endsInSlash then throw .notDirectory
  return d.contents place

/-- The place of a file that is to be written, if it lies in the working directory. A path
that ends in a slash after a name can only be meant for a directory. -/
def target (d : Directory) (path : String) : Except FileError (Option String) := do
  let p ← FilePath.ofString path
  match p.parts.getLast? with
  | none => throw .isDirectory
  | some last =>
    let parent ← d.follow p.start p.parts.dropLast
    if parent.isDirectory && p.endsInSlash && !FilePath.isDots last then throw .isDirectory
    match d.enter parent last with
    | .ok (.file name) => return some name
    | .ok .nullDevice => return none
    | .ok _ => throw .isDirectory
    | .error .notFound => return if parent = .here then some last else none
    | .error e => throw e

def put (d : Directory) (name : String) (bytes : ByteArray) : Directory :=
  ⟨(name, bytes) :: d.files.filter (·.1 != name)⟩

def write (d : Directory) (path : String) (text : String) : Directory × Except FileError Unit :=
  match d.target path with
  | .error e => (d, .error e)
  | .ok none => (d, .ok ())
  | .ok (some name) => (d.put name text.toUTF8, .ok ())

def run (d : Directory) (arguments : List String) : Directory × Report :=
  match Arguments.read arguments with
  | none => (d, ⟨"", .failed, none⟩)
  | some a =>
    let r := report a (d.read a.table) (d.read a.scenario)
    match r.file with
    | none => (d, r)
    | some (path, text) =>
      let (d, written) := d.write path text
      (d, r.afterWriting written)

end Directory

end Signalbox.CommandLine

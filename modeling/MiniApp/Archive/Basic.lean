import MiniApp.Archive.Checksum
import MiniApp.Archive.Path

set_option autoImplicit false

namespace MiniApp

structure ArchiveEntry where
  path : String
  content : String
deriving DecidableEq

namespace ArchiveEntry

/-- Read and write for the owner, read for all others. -/
def mode : Nat := 0o644

/-- Year, month, day, hour, minute and second: the first time that an archive can hold. -/
def modified : List Nat := [1980, 1, 1, 0, 0, 0]

def size (e : ArchiveEntry) : Nat := e.content.utf8ByteSize

def checksum (e : ArchiveEntry) : UInt32 := Checksum.ofText e.content

end ArchiveEntry

inductive ArchiveError where
  | duplicate (path : String)
  | emptyProject
  | invalidPath (path : String) (fault : PathFault)
deriving DecidableEq

def ArchiveError.message : ArchiveError → String
  | .duplicate path => "Zip error: invalid Zip archive: Duplicate filename: " ++ path
  | .emptyProject => "Project has no files"
  | .invalidPath path fault => "Invalid archive path '" ++ path ++ "': " ++ fault.text

structure Archive where
  entries : List ArchiveEntry
deriving DecidableEq

def checkPath (path : String) : Except ArchiveError Unit :=
  match ArchivePath.fault? path with
  | some fault => .error (.invalidPath path fault)
  | none => .ok ()

namespace Archive

def empty : Archive := ⟨[]⟩

def size (a : Archive) : Nat := a.entries.length

def contains (a : Archive) (path : String) : Bool := a.entries.any fun e => e.path == path

def add (a : Archive) (path content : String) : Except ArchiveError Archive :=
  match checkPath path with
  | .error e => .error e
  | .ok _ =>
    if a.contains path then .error (.duplicate path) else .ok ⟨a.entries ++ [⟨path, content⟩]⟩

end Archive

end MiniApp

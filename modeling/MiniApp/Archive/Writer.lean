import MiniApp.Archive.Basic

/-!
Writing an archive through a zip library. A file is checked, started and written; each of the three
can fail, and the writer goes on from whatever state the library is left in. The number of files is
counted beside the library, which keeps the files themselves.
-/

set_option autoImplicit false

namespace MiniApp

/-- What an archive holds of a file besides its path and its bytes. -/
structure EntryOptions where
  deflated : Bool
  modified : List Nat
  mode : Nat
deriving DecidableEq

def EntryOptions.fixed : EntryOptions := ⟨true, ArchiveEntry.modified, ArchiveEntry.mode⟩

structure PackedFile where
  path : String
  content : ByteArray
  options : EntryOptions

def ArchiveEntry.packed (e : ArchiveEntry) : PackedFile := ⟨e.path, e.content.toUTF8, .fixed⟩

/-- The operations of a zip library with its state and its finished archives. An operation that fails
leaves a state too, beside the text of its error. -/
structure ZipLibrary (State Bytes : Type) where
  new : State
  startFile : State → String → EntryOptions → Except String Unit × State
  writeAll : State → ByteArray → Except String Unit × State
  finish : State → Except String Bytes
  filesIn : Bytes → List PackedFile

inductive WriteError where
  | invalidPath (path : String) (fault : PathFault)
  | zip (text : String)
  | io (text : String)
deriving DecidableEq

def WriteError.message : WriteError → String
  | .invalidPath path fault => (ArchiveError.invalidPath path fault).message
  | .zip text => "Zip error: " ++ text
  | .io text => "IO error: " ++ text

structure ArchiveWriter (State : Type) where
  zip : State
  options : EntryOptions
  count : Nat

namespace ArchiveWriter

variable {State Bytes : Type}

def new (lib : ZipLibrary State Bytes) : ArchiveWriter State := ⟨lib.new, .fixed, 0⟩

def addFile (lib : ZipLibrary State Bytes) (w : ArchiveWriter State) (path : String)
    (content : ByteArray) : Except WriteError Unit × ArchiveWriter State :=
  match ArchivePath.fault? path with
  | some fault => (.error (.invalidPath path fault), w)
  | none =>
    match lib.startFile w.zip path w.options with
    | (.error text, zip) => (.error (.zip text), { w with zip })
    | (.ok _, zip) =>
      match lib.writeAll zip content with
      | (.error text, zip) => (.error (.io text), { w with zip })
      | (.ok _, zip) => (.ok (), { w with zip, count := w.count + 1 })

def addFiles (lib : ZipLibrary State Bytes) (w : ArchiveWriter State)
    (files : List (String × ByteArray)) : ArchiveWriter State :=
  files.foldl (fun w f => (w.addFile lib f.1 f.2).2) w

def finish (lib : ZipLibrary State Bytes) (w : ArchiveWriter State) : Except WriteError Bytes :=
  match lib.finish w.zip with
  | .error text => .error (.zip text)
  | .ok bytes => .ok bytes

end ArchiveWriter

end MiniApp

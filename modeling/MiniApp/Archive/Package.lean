import MiniApp.Archive.Basic
import MiniApp.Json.Record
import MiniApp.Project.Basic

set_option autoImplicit false

namespace MiniApp

def Project.folder (p : Project) : String := if p.slug = "" then Slug.ofName p.name else p.slug

namespace Archive

/-- Appends the files of a project in order; the first that is refused ends it. -/
def addFiles (folder : String) (a : Archive) : List SourceFile → Except ArchiveError Archive
  | [] => .ok a
  | f :: fs =>
    match checkPath f.path with
    | .error e => .error e
    | .ok _ =>
      match a.add (folder ++ "/" ++ f.path) f.content with
      | .error e => .error e
      | .ok a => addFiles folder a fs

def ofProject (p : Project) : Except ArchiveError Archive :=
  if p.files.isEmpty then .error .emptyProject else addFiles p.folder empty p.files

end Archive

structure PackageOptions where
  displayName : String
deriving DecidableEq

namespace PackageOptions

def standard : PackageOptions := ⟨defaultAppName⟩

def fieldReaders : List (Field PackageOptions) := [
  ⟨"projectDisplayName", [], fun v o => v.asString.map fun s => { o with displayName := s }⟩]

def ofJson (v : Json) : Except RecordError PackageOptions :=
  Field.readRecord "DocumentArchiveOptions" fieldReaders standard v

def record (o : PackageOptions) : Json := .object [("projectDisplayName", .string o.displayName)]

end PackageOptions

def documentGuide (displayName : String) : String :=
  let title := (shownAppName displayName).toList.filter fun c => !Text.isControl c
  Asset.fileText [
    "# " ++ String.ofList title,
    "",
    "Generated by miniforge.",
    "",
    "`index.html` is self-contained: open it in a browser or upload it to any static host.",
    "Inside a host app that frames it, pass a `host` query parameter or name the frame",
    "`miniforge-host` to route bridge calls to the host."]

def Archive.ofDocument (html : String) (o : PackageOptions) : Except ArchiveError Archive :=
  match Archive.empty.add "index.html" html with
  | .error e => .error e
  | .ok a => a.add "README.md" (documentGuide o.displayName)

end MiniApp

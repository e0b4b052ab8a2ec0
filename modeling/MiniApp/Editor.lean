import MiniApp.Archive.Package
import MiniApp.Document.Basic
import MiniApp.Project.Basic

set_option autoImplicit false

namespace MiniApp.Editor

def version : String := "0.1.0"

/-- A value read leniently: null and what cannot be read give the standard one. -/
def readOr {α : Type} (standard : α) (read : Json → Except RecordError α) (v : Json) : α :=
  if v.isNull then standard
  else match read v with
    | .ok a => a
    | .error _ => standard

def documentOptions (v : Json) : DocumentOptions := readOr .standard DocumentOptions.ofJson v

def projectOptions (v : Json) : ProjectOptions := readOr .standard ProjectOptions.ofJson v

def packageOptions (v : Json) : PackageOptions := readOr .standard PackageOptions.ofJson v

def document (graph options : Json) : String := Document.ofJson (documentOptions options) graph

def pages (pages options : Json) : String :=
  Document.ofPages (documentOptions options) (readOr [] Page.listOfJson pages)

def project (graph options : Json) : Project := Project.ofJson (projectOptions options) graph

def projectArchive (graph options : Json) : Except ArchiveError Archive :=
  Archive.ofProject (project graph options)

def documentArchive (html : String) (options : Json) : Except ArchiveError Archive :=
  Archive.ofDocument html (packageOptions options)

end MiniApp.Editor

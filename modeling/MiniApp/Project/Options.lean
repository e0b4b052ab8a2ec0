import MiniApp.Document.Options
import MiniApp.Text.Blank

set_option autoImplicit false

namespace MiniApp

structure ProjectOptions where
  displayName : String
  darkMode : Bool
  submission : Bool
  contactEmail : Option String
  timeout : Nat
deriving DecidableEq

namespace ProjectOptions

def standard : ProjectOptions := ⟨defaultAppName, false, false, none, defaultTimeout⟩

def fieldReaders : List (Field ProjectOptions) := [
  ⟨"projectDisplayName", [], fun v o => v.asString.map fun s => { o with displayName := s }⟩,
  ⟨"darkMode", [], fun v o => v.asBool.map fun b => { o with darkMode := b }⟩,
  ⟨"submission", [], fun v o => v.asBool.map fun b => { o with submission := b }⟩,
  ⟨"contactEmail", [], fun v o => v.asOptionalString.map fun s => { o with contactEmail := s }⟩,
  ⟨"bridgeTimeoutMs", [], fun v o => v.asWord.map fun n => { o with timeout := n }⟩]

def ofJson (v : Json) : Except RecordError ProjectOptions :=
  Field.readRecord "ProjectOptions" fieldReaders standard v

def record (o : ProjectOptions) : Json :=
  .object [("projectDisplayName", .string o.displayName), ("darkMode", .bool o.darkMode),
    ("submission", .bool o.submission),
    ("contactEmail", (o.contactEmail.map Json.string).getD .null),
    ("bridgeTimeoutMs", .integer o.timeout)]

def name (o : ProjectOptions) : String := shownAppName o.displayName

/-- An address that has an at sign and no blanks inside. -/
def isContact (cs : List Char) : Bool := cs.contains '@' && !cs.any Text.isBlank

def contact (o : ProjectOptions) : Option String :=
  (o.contactEmail.map Text.trim).filter fun s => isContact s.toList

end ProjectOptions

end MiniApp

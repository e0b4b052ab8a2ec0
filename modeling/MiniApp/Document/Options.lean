import MiniApp.Json.Record
import MiniApp.Text.Blank

set_option autoImplicit false

namespace MiniApp

def defaultAppName : String := "My Mini App"

def shownAppName (name : String) : String :=
  let shown := Text.trim name
  if shown = "" then defaultAppName else shown

/-- How many milliseconds a call of the host may take if nothing else is said; zero is for ever. -/
def defaultTimeout : Nat := 30000

structure DocumentOptions where
  darkMode : Bool
  displayName : String
  timeout : Nat
  language : String
deriving DecidableEq

namespace DocumentOptions

def standard : DocumentOptions := ⟨false, defaultAppName, defaultTimeout, "en"⟩

def fieldReaders : List (Field DocumentOptions) := [
  ⟨"darkMode", [], fun v o => v.asBool.map fun b => { o with darkMode := b }⟩,
  ⟨"projectDisplayName", [], fun v o => v.asString.map fun s => { o with displayName := s }⟩,
  ⟨"bridgeTimeoutMs", [], fun v o => v.asWord.map fun n => { o with timeout := n }⟩,
  ⟨"language", [], fun v o => v.asString.map fun s => { o with language := s }⟩]

def ofJson (v : Json) : Except RecordError DocumentOptions :=
  Field.readRecord "DocumentOptions" fieldReaders standard v

def record (o : DocumentOptions) : Json :=
  .object [("darkMode", .bool o.darkMode), ("projectDisplayName", .string o.displayName),
    ("bridgeTimeoutMs", .integer o.timeout), ("language", .string o.language)]

def title (o : DocumentOptions) : String := shownAppName o.displayName

def isLanguageTag (cs : List Char) : Bool :=
  !cs.isEmpty && cs.length ≤ 35 && cs.all fun c => c.isAlphanum || c == '-'

/-- The language without the blanks around it, English when that is no language tag. -/
def languageTag (o : DocumentOptions) : String :=
  let tag := Text.trim o.language
  if isLanguageTag tag.toList then tag else "en"

end DocumentOptions

end MiniApp

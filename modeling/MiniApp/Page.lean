import MiniApp.Graph.Reader
import MiniApp.Graph.Writer
import MiniApp.Text.Blank

set_option autoImplicit false

namespace MiniApp

structure Page where
  id : String
  displayName : String
  graph : Json
deriving DecidableEq

namespace Page

def ofText (id displayName graph : String) : Page := ⟨id, displayName, .string graph⟩

def ofGraph (id displayName : String) (graph : Graph) : Page := ⟨id, displayName, graph.toJson⟩

def readGraph (p : Page) : Except GraphError Graph := Graph.ofJson p.graph

def title (p : Page) : String := if Text.isBlankText p.displayName then p.id else p.displayName

def record (p : Page) : Json :=
  .object [("pageId", .string p.id), ("pageDisplayName", .string p.displayName),
    ("graph", p.graph)]

structure Draft where
  id : Option String
  displayName : String
  graph : Json

def fieldReaders : List (Field Draft) := [
  ⟨"pageId", ["id"], fun v d => v.asString.map fun s => { d with id := some s }⟩,
  ⟨"pageDisplayName", ["name"], fun v d => v.asString.map fun s => { d with displayName := s }⟩,
  ⟨"graph", [], fun v d => .ok { d with graph := v }⟩]

/-- The id is the one field that a page cannot do without. -/
def ofJson (v : Json) : Except RecordError Page :=
  match Field.readRecord "Page" fieldReaders ⟨none, "", .null⟩ v with
  | .error e => .error e
  | .ok ⟨some id, displayName, graph⟩ => .ok ⟨id, displayName, graph⟩
  | .ok _ =>
    match v with
    | .array _ => .error (.tooShort 0 "struct Page with 3 elements")
    | _ => .error (.missingField "pageId")

def listOfJson (v : Json) : Except RecordError (List Page) :=
  match v.asList with
  | .error e => .error e
  | .ok vs => vs.mapM ofJson

end Page

end MiniApp

import MiniApp.Graph.Basic
import MiniApp.Json.Reader
import MiniApp.Json.Record

/-!
Reading a graph from JSON. A graph is an object of node records by id, possibly wrapped once as a
JSON text inside a string. The fields of a record are read leniently: a field of the wrong shape
counts as absent. A record that cannot be read at all is left out, and is an error for the root
only.
-/

set_option autoImplicit false

namespace MiniApp

inductive GraphError where
  | invalidJson (error : JsonError)
  | notAnObject (found : String)
  | missingRoot
  | invalidRoot (reason : RecordError)
deriving DecidableEq

def GraphError.message : GraphError → String
  | .invalidJson e => "Invalid graph JSON: " ++ e.message
  | .notAnObject found => "Graph must be a JSON object keyed by node id, found " ++ found
  | .missingRoot => "Graph has no `ROOT` node"
  | .invalidRoot reason => "Invalid `ROOT` node: " ++ reason.message

namespace Node

/-- A tag is a string, or an object that holds it as the resolved name. -/
def tagOf : Json → String
  | .string tag => tag
  | .object fields =>
    match fields.lookup "resolvedName" with
    | some (.string tag) => tag
    | _ => ""
  | _ => ""

def propsOf : Json → Fields
  | .object fields => fields
  | _ => []

def idsOf : Json → List String
  | .array items => items.filterMap fun
    | .string id => some id
    | _ => none
  | _ => []

def slotsOf : Json → Table String String
  | .object fields => .ofList (fields.filterMap fun
    | (name, .string id) => some (name, id)
    | _ => none)
  | _ => .empty

def flagOf : Json → Bool
  | .bool b => b
  | _ => false

def textOf : Json → Option String
  | .string s => some s
  | _ => none

/-- The fields of a node record, in their fixed order. None of them refuses a value. -/
def fieldReaders : List (Field Node) := [
  ⟨"type", ["typeTag"], fun v n => .ok { n with typeTag := tagOf v }⟩,
  ⟨"props", [], fun v n => .ok { n with props := propsOf v }⟩,
  ⟨"children", ["nodes"], fun v n => .ok { n with children := idsOf v }⟩,
  ⟨"namedSlots", ["linkedNodes"], fun v n => .ok { n with slots := slotsOf v }⟩,
  ⟨"hidden", [], fun v n => .ok { n with hidden := flagOf v }⟩,
  ⟨"displayName", [], fun v n => .ok { n with displayName := textOf v }⟩]

/-- The node under `id`; the id never comes from the record. -/
def read (id : String) (record : Json) : Except RecordError Node :=
  Field.readRecord "Node" fieldReaders (.bare id "") record

end Node

namespace Graph

def insertEntry (g : Graph) (entry : String × Json) : Graph :=
  if entry.1 = rootId then g
  else match Node.read entry.1 entry.2 with
    | .ok n => g.insert n
    | .error _ => g

def ofEntries (entries : Fields) : Except GraphError Graph :=
  match entries.lookup rootId with
  | none => .error .missingRoot
  | some record =>
    match Node.read rootId record with
    | .error reason => .error (.invalidRoot reason)
    | .ok root => .ok (entries.foldl insertEntry (.withRoot root))

def ofObject : Json → Except GraphError Graph
  | .object entries => ofEntries entries
  | v => .error (.notAnObject v.kind)

/-- A graph from a JSON value; a string is read as the text of one, once. -/
def ofJson : Json → Except GraphError Graph
  | .string text =>
    match Json.read text with
    | .error e => .error (.invalidJson e)
    | .ok v => ofObject v
  | v => ofObject v

def ofText (text : String) : Except GraphError Graph :=
  match Json.read text with
  | .error e => .error (.invalidJson e)
  | .ok v => ofJson v

end Graph

end MiniApp

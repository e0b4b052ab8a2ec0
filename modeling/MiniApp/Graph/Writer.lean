import MiniApp.Graph.Basic
import MiniApp.Json.Writer

set_option autoImplicit false

namespace MiniApp

namespace Node

def recordFields (n : Node) (slots : List (String × String)) : Fields :=
  [("type", .string n.typeTag), ("props", .object n.props),
    ("children", .array (n.children.map .string)),
    ("namedSlots", .object (slots.map fun s => (s.1, .string s.2))), ("hidden", .bool n.hidden)] ++
  n.displayName.toList.map fun name => ("displayName", .string name)

def record (n : Node) : Json := .object (n.recordFields n.slots.entries)

def toJson (n : Node) : Json :=
  .object (sortFields (n.recordFields (sortFields n.slots.entries)))

end Node

namespace Graph

def record (g : Graph) : Json := .object (g.all.map fun n => (n.id, n.record))

def text (g : Graph) : String := g.record.text

def toJson (g : Graph) : Json := .object (sortFields (g.all.map fun n => (n.id, n.toJson)))

end Graph

end MiniApp

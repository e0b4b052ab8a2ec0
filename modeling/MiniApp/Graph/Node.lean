import MiniApp.Json.Value
import MiniApp.Table

set_option autoImplicit false

namespace MiniApp

structure Node where
  id : String
  typeTag : String
  props : Fields
  children : List String
  slots : Table String String
  hidden : Bool
  displayName : Option String
deriving DecidableEq

inductive Link where
  | child (id : String)
  | slot (name id : String)
deriving DecidableEq

def Link.id : Link → String
  | .child id => id
  | .slot _ id => id

def Link.slotName : Link → Option String
  | .child _ => none
  | .slot name _ => some name

/-- Slots named in `order` come in its order and before all others, which come by name. -/
def slotBefore (order : List String) (a b : String) : Bool :=
  match order.idxOf? a, order.idxOf? b with
  | some i, some j => i ≤ j
  | some _, none => true
  | none, some _ => false
  | none, none => a ≤ b

namespace Node

def bare (id typeTag : String) : Node := ⟨id, typeTag, [], [], .empty, false, none⟩

def label (n : Node) : String := n.displayName.getD n.id

def childLinks (order : List String) (n : Node) : List Link :=
  n.children.map .child ++
    (n.slots.entries.mergeSort fun a b => slotBefore order a.1 b.1).map fun s => .slot s.1 s.2

def agrees (a b : Node) : Bool :=
  a.id == b.id && a.typeTag == b.typeTag && Json.fieldsAgree a.props b.props &&
    a.children == b.children && a.slots.agrees (· == ·) b.slots && a.hidden == b.hidden &&
    a.displayName == b.displayName

end Node

end MiniApp

import MiniApp.Component.Registry
import MiniApp.Graph.Basic
import MiniApp.Walk.Report

/-!
Rendering a graph: a walk from the root that renders the links of a node before the node itself.
Graphs may have links that lead nowhere, in circles or too deep, and nodes that are hidden, of an
unknown kind or with unusable properties; the walk skips the first three, leaves out hidden nodes,
and passes the children of the last two through.
-/

set_option autoImplicit false

namespace MiniApp

/-- The deepest level that is rendered; the root lies at level zero. -/
def maxDepth : Nat := 64

def Node.entry? (n : Node) : Option Entry := Registry.builtin.get? n.typeTag

def Node.slotOrder (n : Node) : List String :=
  match n.entry? with
  | some e => e.slotOrder
  | none => []

def Node.links (n : Node) : List Link := n.childLinks n.slotOrder

/-- The handle of a node by its number in preorder, counted from one. -/
def handleAt (number : Nat) : String := "mf" ++ toString number

/-- The ids on the way from the root, the innermost first, the number of handles given so far, and
the report so far. -/
structure Walker where
  stack : List String
  ordinal : Nat
  report : Report

namespace Walker

def start : Walker := ⟨[], 0, .empty⟩

def enter (w : Walker) (n : Node) : Walker :=
  { w with stack := n.id :: w.stack, ordinal := w.ordinal + 1 }

def leave (w : Walker) (depth : Nat) : Walker :=
  { w with stack := w.stack.tail, report := w.report.addNode depth }

def note (w : Walker) (change : Report → Report) : Walker := { w with report := change w.report }

/-- The links of a node one after another, where `follow` renders what an id leads to. -/
def visitLinks (follow : String → Walker → String × Walker) :
    List Link → Children → Walker → Children × Walker
  | [], c, w => (c, w)
  | l :: links, c, w =>
    let (fragment, w) := follow l.id w
    visitLinks follow links (c.add l.slotName fragment) w

def emitNode (backend : Backend) (n : Node) (c : Children) (handle : String) (w : Walker) :
    Option Entry → String × Walker
  | some e =>
    match e.emit backend n.props c handle with
    | .ok fragment => (fragment, w.note (·.addKind e.kind))
    | .error _ => (c.joined, w.note (·.addDegraded n.id))
  | none => (c.joined, w.note (·.addUnknownTag n.typeTag))

/-- A node at a level, and before it what its links lead to. -/
def visit (backend : Backend) (follow : String → Walker → String × Walker) (n : Node)
    (depth : Nat) (w : Walker) : String × Walker :=
  if n.hidden then ("", w)
  else
    let entered := w.enter n
    let (children, below) := visitLinks follow n.links .empty entered
    emitNode backend n children (handleAt entered.ordinal) (below.leave depth) n.entry?

/-- What a link to a level leads to. It must not close a circle, nor lie too deep. -/
def visitLink (g : Graph) (backend : Backend) (depth : Nat) (id : String) (w : Walker) :
    String × Walker :=
  if id ∈ w.stack then ("", w.note (·.addCycle id))
  else if maxDepth < depth then ("", w.note (·.addTooDeep id))
  else
    match g.get? id with
    | some n => visit backend (fun id w => visitLink g backend (depth + 1) id w) n depth w
    | none => ("", w.note (·.addDangling id))
termination_by maxDepth + 1 - depth

end Walker

structure Walk where
  output : String
  report : Report

def walk (g : Graph) (backend : Backend) : Walk :=
  let (output, w) := Walker.start.visit backend (Walker.visitLink g backend 1) g.root 0
  ⟨output, w.report⟩

end MiniApp

import MiniApp.Graph.Node

set_option autoImplicit false

namespace MiniApp

def rootId : String := "ROOT"

structure Graph where
  root : Node
  nodes : Table String Node
  root_id : root.id = rootId
  node_id : ∀ e ∈ nodes.entries, e.2.id = e.1
  root_apart : rootId ∉ nodes.keys
deriving DecidableEq

namespace Graph

/-- A graph of one node, which becomes the root whatever its id was. -/
def withRoot (n : Node) : Graph where
  root := { n with id := rootId }
  nodes := .empty
  root_id := rfl
  node_id := by simp [Table.empty]
  root_apart := by simp [Table.empty, Table.keys]

def new : Graph := withRoot (.bare rootId "Container")

def insert (g : Graph) (n : Node) : Graph :=
  if h : n.id = rootId then { g with root := n, root_id := h }
  else
    { g with
      nodes := g.nodes.insert n.id n
      node_id := fun e he => by
        rcases mem_putEntry n.id n g.nodes.entries e he with rfl | he
        · rfl
        · exact g.node_id e he
      root_apart := fun hr => by
        rcases (mem_keys_putEntry n.id rootId n g.nodes.entries).1 hr with hr | hr
        · exact h hr.symm
        · exact g.root_apart hr }

def get? (g : Graph) (id : String) : Option Node :=
  if id = rootId then some g.root else g.nodes.get? id

def contains (g : Graph) (id : String) : Bool := (g.get? id).isSome

def size (g : Graph) : Nat := g.nodes.size + 1

def isEmpty (g : Graph) : Bool := g.root.children.isEmpty && g.root.slots.entries.isEmpty

/-- The root, then the other nodes in order. -/
def all (g : Graph) : List Node := g.root :: g.nodes.values

/-- The same nodes, in whatever order they and their slots are held. -/
def agrees (a b : Graph) : Bool := a.root.agrees b.root && a.nodes.agrees Node.agrees b.nodes

theorem get?_rootId (g : Graph) : g.get? rootId = some g.root := if_pos rfl

theorem id_of_get? {g : Graph} {id : String} {n : Node} (h : g.get? id = some n) : n.id = id := by
  rw [get?] at h
  split at h
  · next hr =>
    cases h
    rw [g.root_id, hr]
  · exact g.node_id _ (mem_of_findEntry h)

theorem get?_insert (g : Graph) (n : Node) (id : String) :
    (g.insert n).get? id = if n.id = id then some n else g.get? id := by
  by_cases hn : n.id = rootId
  · simp only [insert, hn, dif_pos, get?]
    by_cases hi : id = rootId
    · simp [hi]
    · simp [hi, Ne.symm hi]
  · simp only [insert, hn, dif_neg, not_false_eq_true, get?, Table.get?_insert]
    by_cases hi : id = rootId
    · simp [hi, hn]
    · simp [hi]

end Graph

end MiniApp

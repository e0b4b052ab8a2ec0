import MiniApp.Walk.Basic

/-!
The tree that a graph unfolds into from its root. Each place of the tree is a link that was
followed; a node that several links lead to occurs once for each of them. A link ends where it would
close a circle, lie below the depth limit, or lead to no node or a hidden one, so the tree is finite
for every graph. What a walk renders and reports can be read off the tree.
-/

set_option autoImplicit false

namespace MiniApp

/-- What a link unfolds into. The links below a node stand in its effective child order, each with
the slot that it comes from. -/
inductive Unfolding where
  | cycle (id : String)
  | tooDeep (id : String)
  | dangling (id : String)
  | hidden (id : String)
  | node (node : Node) (links : List (Option String × Unfolding))

namespace Graph

/-- Follows a link below the nodes of `path`, with `budget` levels left. -/
def unfoldLink (g : Graph) : (budget : Nat) → (path : List String) → (id : String) → Unfolding
  | budget, path, id =>
    if id ∈ path then .cycle id
    else match budget with
      | 0 => .tooDeep id
      | budget + 1 =>
        match g.get? id with
        | none => .dangling id
        | some n =>
          if n.hidden then .hidden id
          else .node n (n.links.map fun l =>
            (l.slotName, unfoldLink g budget (n.id :: path) l.id))

def unfold (g : Graph) : Unfolding := g.unfoldLink (maxDepth + 1) [] rootId

theorem unfoldLink_of_mem (g : Graph) (budget : Nat) {path : List String} {id : String}
    (h : id ∈ path) : g.unfoldLink budget path id = .cycle id := by
  cases budget <;> simp [unfoldLink, h]

theorem unfoldLink_zero (g : Graph) {path : List String} {id : String} (h : id ∉ path) :
    g.unfoldLink 0 path id = .tooDeep id := by
  simp [unfoldLink, h]

theorem unfoldLink_succ (g : Graph) (budget : Nat) {path : List String} {id : String}
    (h : id ∉ path) :
    g.unfoldLink (budget + 1) path id =
      match g.get? id with
      | none => .dangling id
      | some n =>
        if n.hidden then .hidden id
        else .node n (n.links.map fun l =>
          (l.slotName, g.unfoldLink budget (n.id :: path) l.id)) := by
  rw [unfoldLink, if_neg h]

theorem unfold_eq (g : Graph) :
    g.unfold =
      if g.root.hidden then .hidden rootId
      else .node g.root (g.root.links.map fun l =>
        (l.slotName, g.unfoldLink maxDepth [g.root.id] l.id)) := by
  rw [unfold, unfoldLink_succ g maxDepth List.not_mem_nil, get?_rootId]

end Graph

/-- What becomes of a node: its component is written out, its properties are unusable, or its tag
names no component. Children are rendered in any case. -/
inductive Verdict where
  | emitted (kind : Kind)
  | degraded
  | unknownTag
deriving DecidableEq

/-- What becomes of properties and rendered children under an entry. -/
def judge (backend : Backend) (props : Fields) (c : Children) (handle : String) :
    Option Entry → Verdict
  | some e =>
    match e.emit backend props c handle with
    | .ok _ => .emitted e.kind
    | .error _ => .degraded
  | none => .unknownTag

def emitAs (backend : Backend) (props : Fields) (c : Children) (handle : String) :
    Option Entry → String
  | some e =>
    match e.emit backend props c handle with
    | .ok fragment => fragment
    | .error _ => c.joined
  | none => c.joined

def Node.judge (n : Node) (backend : Backend) (c : Children) (handle : String) : Verdict :=
  MiniApp.judge backend n.props c handle n.entry?

def Node.emit (n : Node) (backend : Backend) (c : Children) (handle : String) : String :=
  emitAs backend n.props c handle n.entry?

/-- What becomes of a link: it closes a circle, lies too deep, leads to no node or to a hidden one,
or it is followed. -/
inductive LinkFate where
  | cycle | tooDeep | dangling | hidden | followed
deriving DecidableEq

/-- What a walk meets: a link that it does not follow, or a node at a level that is finished. -/
inductive Event where
  | skipped (fate : LinkFate) (id : String)
  | finished (depth : Nat) (node : Node) (verdict : Verdict)

namespace Report

def addVerdict (r : Report) (n : Node) : Verdict → Report
  | .emitted kind => r.addKind kind
  | .degraded => r.addDegraded n.id
  | .unknownTag => r.addUnknownTag n.typeTag

/-- Links to hidden nodes are nothing to note. -/
def addSkipped (r : Report) (id : String) : LinkFate → Report
  | .cycle => r.addCycle id
  | .tooDeep => r.addTooDeep id
  | .dangling => r.addDangling id
  | .hidden | .followed => r

def record (r : Report) : Event → Report
  | .skipped fate id => r.addSkipped id fate
  | .finished depth n verdict => (r.addNode depth).addVerdict n verdict

def ofEvents (events : List Event) : Report := events.foldl record .empty

end Report

/-- What a walk does with a node at one place, named by the numbers of the links that lead there.
The nodes on the way stand in `above`, the innermost first. -/
structure Visit where
  place : List Nat
  node : Node
  above : List Node
  handle : String
  verdict : Verdict
  fragment : String

structure LinkVisit where
  place : List Nat
  id : String
  fate : LinkFate

namespace Unfolding

def target : Unfolding → String
  | .cycle id | .tooDeep id | .dangling id | .hidden id => id
  | .node n _ => n.id

def fate : Unfolding → LinkFate
  | .cycle _ => .cycle
  | .tooDeep _ => .tooDeep
  | .dangling _ => .dangling
  | .hidden _ => .hidden
  | .node .. => .followed

mutual

def size : Unfolding → Nat
  | .node _ links => 1 + sizeOfLinks links
  | _ => 0

def sizeOfLinks : List (Option String × Unfolding) → Nat
  | [] => 0
  | (_, u) :: links => size u + sizeOfLinks links

end

theorem sizeOfLinks_append (links others : List (Option String × Unfolding)) :
    sizeOfLinks (links ++ others) = sizeOfLinks links + sizeOfLinks others := by
  induction links with
  | nil => exact (Nat.zero_add _).symm
  | cons l links ih => simp only [List.cons_append, sizeOfLinks, ih, Nat.add_assoc]

mutual

/-- The fragment of a link whose first node has the given number in preorder. -/
def fragment (backend : Backend) (number : Nat) : Unfolding → String
  | .node n links =>
    n.emit backend (.ofList (fragments backend (number + 1) links)) (handleAt number)
  | _ => ""

def fragments (backend : Backend) (number : Nat) :
    List (Option String × Unfolding) → List (Option String × String)
  | [] => []
  | (slot, u) :: links =>
    (slot, fragment backend number u) :: fragments backend (number + size u) links

end

def verdict (backend : Backend) (number : Nat) (n : Node)
    (links : List (Option String × Unfolding)) : Verdict :=
  n.judge backend (.ofList (fragments backend (number + 1) links)) (handleAt number)

mutual

def events (backend : Backend) (number depth : Nat) : Unfolding → List Event
  | .cycle id => [.skipped .cycle id]
  | .tooDeep id => [.skipped .tooDeep id]
  | .dangling id => [.skipped .dangling id]
  | .hidden id => [.skipped .hidden id]
  | .node n links =>
    eventsOfLinks backend (number + 1) (depth + 1) links ++
      [.finished depth n (verdict backend number n links)]

def eventsOfLinks (backend : Backend) (number depth : Nat) :
    List (Option String × Unfolding) → List Event
  | [] => []
  | (_, u) :: links =>
    events backend number depth u ++ eventsOfLinks backend (number + size u) depth links

end

mutual

def visits (backend : Backend) (number : Nat) (place : List Nat) (above : List Node) :
    Unfolding → List Visit
  | .node n links =>
    ⟨place, n, above, handleAt number, verdict backend number n links,
        fragment backend number (.node n links)⟩ ::
      visitsFrom backend (number + 1) place (n :: above) 0 links
  | _ => []

def visitsFrom (backend : Backend) (number : Nat) (place : List Nat) (above : List Node)
    (index : Nat) : List (Option String × Unfolding) → List Visit
  | [] => []
  | (_, u) :: links =>
    visits backend number (place ++ [index]) above u ++
      visitsFrom backend (number + size u) place above (index + 1) links

end

mutual

def linkVisits (place : List Nat) : Unfolding → List LinkVisit
  | .node _ links => linkVisitsFrom place 0 links
  | _ => []

def linkVisitsFrom (place : List Nat) (index : Nat) :
    List (Option String × Unfolding) → List LinkVisit
  | [] => []
  | (_, u) :: links =>
    ⟨place ++ [index], u.target, u.fate⟩ ::
      (linkVisits (place ++ [index]) u ++ linkVisitsFrom place (index + 1) links)

end

end Unfolding

namespace Graph

def visits (g : Graph) (backend : Backend) : List Visit := g.unfold.visits backend 1 [] []

def linkVisits (g : Graph) : List LinkVisit := g.unfold.linkVisits []

end Graph

end MiniApp

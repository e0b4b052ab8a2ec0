import MiniApp.Component.Kind

set_option autoImplicit false

namespace MiniApp

/-- `dangling`, `cycles` and `tooDeep` list ids in the order of the links, `degraded` in the order
in which nodes are finished; `unknownTags` holds each tag once, in order, and `kinds` each kind that
was written out, in catalog order. -/
structure Report where
  rendered : Nat
  deepest : Nat
  dangling : List String
  cycles : List String
  tooDeep : List String
  degraded : List String
  unknownTags : List String
  kinds : List Kind
deriving DecidableEq

def putText (text : String) : List String → List String
  | [] => [text]
  | t :: ts =>
    if text < t then text :: t :: ts
    else if text = t then t :: ts
    else t :: putText text ts

def putKind (kind : Kind) (kinds : List Kind) : List Kind :=
  Kind.all.filter fun k => k == kind || kinds.contains k

namespace Report

def empty : Report := ⟨0, 0, [], [], [], [], [], []⟩

def isClean (r : Report) : Bool :=
  r.dangling.isEmpty && r.cycles.isEmpty && r.tooDeep.isEmpty && r.degraded.isEmpty &&
    r.unknownTags.isEmpty

def addNode (r : Report) (depth : Nat) : Report :=
  { r with rendered := r.rendered + 1, deepest := max r.deepest depth }

def addDangling (r : Report) (id : String) : Report := { r with dangling := r.dangling ++ [id] }

def addCycle (r : Report) (id : String) : Report := { r with cycles := r.cycles ++ [id] }

def addTooDeep (r : Report) (id : String) : Report := { r with tooDeep := r.tooDeep ++ [id] }

def addDegraded (r : Report) (id : String) : Report := { r with degraded := r.degraded ++ [id] }

def addUnknownTag (r : Report) (tag : String) : Report :=
  { r with unknownTags := putText tag r.unknownTags }

def addKind (r : Report) (kind : Kind) : Report := { r with kinds := putKind kind r.kinds }

end Report

end MiniApp

import MiniApp.Table

set_option autoImplicit false

namespace MiniApp

structure Children where
  ordered : List String
  slots : Table String String

namespace Children

def empty : Children := ⟨[], .empty⟩

def shown (fragments : List String) : List String := fragments.filter fun f => f ≠ ""

/-- The ordered children, then the slots. -/
def all (c : Children) : List String := shown (c.ordered ++ c.slots.values)

def slot? (c : Children) (name : String) : Option String :=
  (c.slots.get? name).filter fun f => f ≠ ""

def extraSlots (c : Children) (placed : List String) : List String :=
  shown ((c.slots.entries.filter fun e => !placed.contains e.1).map Prod.snd)

def remaining (c : Children) (placed : List String) : List String :=
  shown c.ordered ++ c.extraSlots placed

def isEmpty (c : Children) : Bool := c.all.isEmpty

def joined (c : Children) : String := "\n".intercalate c.all

def add (c : Children) (slot : Option String) (fragment : String) : Children :=
  match slot with
  | some name => { c with slots := c.slots.insert name fragment }
  | none => { c with ordered := c.ordered ++ [fragment] }

def ofList (fragments : List (Option String × String)) : Children :=
  fragments.foldl (fun c f => c.add f.1 f.2) empty

end Children

end MiniApp

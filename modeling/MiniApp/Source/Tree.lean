import MiniApp.Source.Writer

/-!
Trees of elements, and how a tree is laid out in lines. What the attributes and styles of an element
hold, and how an opening tag and a text are written, is left to a dialect; that an element with one
text child stays on its line and every other child gets lines of its own is the same in all of
them.
-/

set_option autoImplicit false

namespace MiniApp

variable {α σ : Type}

/-- All of an element but its children. A void element never has any. -/
structure Head (α σ : Type) where
  name : String
  isVoid : Bool
  classes : List String
  attrs : List (String × α)
  styles : List (String × σ)
deriving DecidableEq

/-- `raw` is a fragment that has been rendered before. -/
inductive Tree (α σ : Type) where
  | text (value : String)
  | raw (fragment : String)
  | element (head : Head α σ) (children : List (Tree α σ))

structure Dialect (α σ : Type) where
  /-- The opening tag without its closing bracket. -/
  opening : Head α σ → String
  text : String → String
  childless : Head α σ → String

namespace Tree

/-- The children for some fragments; those that rendered nothing leave no child. -/
def raws (fragments : List String) : List (Tree α σ) :=
  (fragments.filter fun f => f ≠ "").map .raw

def closing (head : Head α σ) : String := "</" ++ head.name ++ ">"

mutual

def lines (d : Dialect α σ) (level : Nat) : Tree α σ → List String
  | .text s => [indented level (d.text s)]
  | .raw fragment => blockLines level fragment
  | .element head children =>
    if head.isVoid then [indented level (d.childless head)]
    else match children with
      | [] => [indented level (d.childless head)]
      | [.text s] => [indented level (d.opening head ++ ">" ++ d.text s ++ closing head)]
      | children =>
        indented level (d.opening head ++ ">") ::
          (linesOfAll d (level + 1) children ++ [indented level (closing head)])

def linesOfAll (d : Dialect α σ) (level : Nat) : List (Tree α σ) → List String
  | [] => []
  | t :: ts => lines d level t ++ linesOfAll d level ts

end

def render (d : Dialect α σ) (t : Tree α σ) : String := finishLines (lines d 0 t)

theorem linesOfAll_eq_flatMap (d : Dialect α σ) (level : Nat) (ts : List (Tree α σ)) :
    linesOfAll d level ts = ts.flatMap (lines d level) := by
  induction ts with
  | nil => rfl
  | cons t ts ih => rw [linesOfAll, ih, List.flatMap_cons]

end Tree

end MiniApp

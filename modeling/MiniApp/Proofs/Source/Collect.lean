import MiniApp.Source.Tree

set_option autoImplicit false

namespace MiniApp

@[simp]
theorem List.flatMap_nothing {γ β : Type} (xs : List γ) :
    (xs.flatMap fun _ => ([] : List β)) = [] := List.flatMap_eq_nil_iff.2 fun _ _ => rfl

namespace Tree

variable {α σ β γ : Type} (head : Head α σ → List β) (raw : String → List β)

mutual

/-- What the elements and the fragments of a tree give, each element before what is in it. -/
def collect : Tree α σ → List β
  | .text _ => []
  | .raw fragment => raw fragment
  | .element h children => head h ++ collectAll children

def collectAll : List (Tree α σ) → List β
  | [] => []
  | t :: ts => collect t ++ collectAll ts

end

attribute [simp] collect collectAll

@[simp]
theorem collectAll_append (ts us : List (Tree α σ)) :
    collectAll head raw (ts ++ us) = collectAll head raw ts ++ collectAll head raw us := by
  induction ts with
  | nil => rfl
  | cons t ts ih => rw [List.cons_append, collectAll, collectAll, ih, List.append_assoc]

@[simp]
theorem collectAll_map (f : γ → Tree α σ) (xs : List γ) :
    collectAll head raw (xs.map f) = xs.flatMap fun x => collect head raw (f x) := by
  induction xs with
  | nil => rfl
  | cons x xs ih => rw [List.map_cons, collectAll, ih, List.flatMap_cons]

@[simp]
theorem collectAll_ite (p : Prop) [Decidable p] (ts us : List (Tree α σ)) :
    collectAll head raw (if p then ts else us) =
      if p then collectAll head raw ts else collectAll head raw us := apply_ite ..

@[simp]
theorem collectAll_raws (fs : List String) :
    collectAll head raw (raws fs) = (fs.filter fun f => f ≠ "").flatMap raw :=
  collectAll_map head raw Tree.raw _

def fragments (t : Tree α σ) : List String := t.collect (fun _ => []) fun f => [f]

def children : Tree α σ → List (Tree α σ)
  | .element _ ts => ts
  | _ => []

def hasClass (name : String) : Tree α σ → Bool
  | .element h _ => h.classes.contains name
  | _ => false

end Tree

end MiniApp

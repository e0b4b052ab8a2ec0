import Mathlib.Data.List.Pairwise
import MiniApp.Proofs.Component.Placement
import MiniApp.Proofs.Jsx.OneLine
import MiniApp.Proofs.Markup.OneLine
import MiniApp.Proofs.Walk.Injection
import MiniApp.Proofs.Walk.ProjectInjection

/-!
# A walk renders the elements of the whole graph

A walk lays out the fragment of a node around the finished fragments of its children. The same text
is written from the top down, by one writer, from the elements that the nodes below a link are laid
out as: the tree of each node, with the elements of its children in the places of their fragments.
-/

set_option autoImplicit false

namespace MiniApp

variable {α σ : Type}

/-- What a link below a node is laid out as, under a name that is empty when there is nothing. -/
structure Part (α σ : Type) where
  slot : Option String
  name : String
  elements : List (Tree α σ)

namespace Part

def children (parts : List (Part α σ)) : Children :=
  .ofList (parts.map fun p => (p.slot, p.name))

def named (parts : List (Part α σ)) (name : String) : List (Tree α σ) :=
  ((parts.find? fun p => p.name = name).map elements).getD []

end Part

variable (rule : Children → String → Component → Tree α σ)

/-- The tree of a component with the parts in their places, or the parts alone. -/
def elementsAs (parts : List (Part α σ)) (handle : String) : Option Component → List (Tree α σ)
  | some component => (rule (Part.children parts) handle component).fill (Part.named parts)
  | none => (Part.children parts).all.flatMap (Part.named parts)

def Node.elements (n : Node) (parts : List (Part α σ)) (handle : String) : List (Tree α σ) :=
  elementsAs rule parts handle n.component?

namespace Unfolding

mutual

/-- What a link is laid out as when its first node has the given number in preorder. -/
def elements (number : Nat) : Unfolding → List (Tree α σ)
  | .node n links => n.elements rule (parts (number + 1) links) (handleAt number)
  | _ => []

/-- The parts of a node are named by the handles of the nodes that they come from. -/
def parts (number : Nat) : List (Option String × Unfolding) → List (Part α σ)
  | [] => []
  | (slot, u) :: links =>
    let laidOut := elements number u
    ⟨slot, if laidOut.isEmpty then "" else handleAt number, laidOut⟩ ::
      parts (number + size u) links

end

end Unfolding

def Graph.elements (g : Graph) : List (Tree α σ) := g.unfold.elements rule 1

section Handles

theorem toList_handleAt (n : Nat) : (handleAt n).toList = 'm' :: 'f' :: Nat.toDigits 10 n := by
  have digits : (toString n).toList = Nat.toDigits 10 n := by
    rw [Nat.toString_eq_ofList_toDigits, String.toList_ofList]
  rw [handleAt, String.toList_append, digits]
  rfl

theorem handleAt_injective : Function.Injective handleAt := by
  have read : Function.LeftInverse (Nat.ofDigitChars 10 · 0) (Nat.toDigits 10) :=
    fun _ => Nat.ofDigitChars_ten_toDigits
  intro m n h
  have chars := congrArg String.toList h
  rw [toList_handleAt, toList_handleAt, List.cons_inj_right, List.cons_inj_right] at chars
  exact read.injective chars

theorem handleAt_ne_empty (n : Nat) : handleAt n ≠ "" := by
  intro empty
  exact absurd (String.append_eq_empty_iff.1 empty).1 (by decide)

end Handles

namespace Unfolding

variable {rule}

theorem size_pos_of_elements {number : Nat} {u : Unfolding} (h : u.elements rule number ≠ []) :
    0 < u.size := by
  cases u with
  | node n links =>
    rw [size]
    omega
  | cycle | tooDeep | dangling | hidden => exact absurd (by simp only [elements]) h

/-- The name of a part is empty, like the part, or the handle at a number of its own. -/
theorem mem_parts {number : Nat} {links : List (Option String × Unfolding)} {p : Part α σ}
    (h : p ∈ parts rule number links) :
    (p.name = "" ∧ p.elements = []) ∨
      ∃ k, p.name = handleAt k ∧ p.elements ≠ [] ∧ number ≤ k ∧ k < number + sizeOfLinks links := by
  induction links generalizing number with
  | nil => exact absurd h List.not_mem_nil
  | cons l links ih =>
    obtain ⟨slot, u⟩ := l
    rw [parts, List.mem_cons] at h
    rcases h with rfl | h
    · by_cases empty : u.elements rule number = []
      · exact .inl ⟨by simp [empty], empty⟩
      · have size := size_pos_of_elements empty
        refine .inr ⟨number, by simp [empty], empty, Nat.le_refl _, ?_⟩
        rw [sizeOfLinks]
        omega
    · refine (ih h).imp_right ?_
      rintro ⟨k, name, shows, low, high⟩
      refine ⟨k, name, shows, by omega, ?_⟩
      rw [sizeOfLinks]
      omega

theorem pairwise_parts (number : Nat) (links : List (Option String × Unfolding)) :
    (parts rule number links).Pairwise fun p q => p.name = q.name → p.elements = q.elements := by
  induction links generalizing number with
  | nil => exact .nil
  | cons l links ih =>
    obtain ⟨slot, u⟩ := l
    rw [parts, List.pairwise_cons]
    refine ⟨fun q hq same => ?_, ih _⟩
    dsimp only at same ⊢
    by_cases empty : u.elements rule number = []
    · rw [empty, List.isEmpty_nil, if_pos rfl] at same
      rcases mem_parts hq with ⟨-, none⟩ | ⟨k, name, -, -, -⟩
      · rw [empty, none]
      · exact absurd (name.symm.trans same.symm) (handleAt_ne_empty k)
    · rw [if_neg (by simpa using empty)] at same
      rcases mem_parts hq with ⟨name, -⟩ | ⟨k, name, -, low, -⟩
      · exact absurd (same.trans name) (handleAt_ne_empty number)
      · have size := size_pos_of_elements empty
        have one := handleAt_injective (same.trans name)
        omega

theorem named_of_mem {number : Nat} {links : List (Option String × Unfolding)} {p : Part α σ}
    (h : p ∈ parts rule number links) : Part.named (parts rule number links) p.name = p.elements := by
  rw [Part.named]
  cases found : (parts rule number links).find? fun q => q.name = p.name with
  | none => exact absurd (List.find?_eq_none.1 found p h) (by simp)
  | some q =>
    have name : q.name = p.name := by simpa using List.find?_some found
    have symm : Std.Symm fun p q : Part α σ => p.name = q.name → p.elements = q.elements :=
      ⟨fun _ _ h same => (h same.symm).symm⟩
    exact (pairwise_parts number links).forall_of_forall (fun _ _ _ => rfl)
      (List.mem_of_find?_eq_some found) h name

end Unfolding

section Writing

variable {rule} {backend : Backend} {d : Dialect α σ} {head : Head α σ → Prop}
  {accepted : String → Prop}

/-- A backend lays out components as trees of a dialect by rules that do not look at fragments. -/
structure Backend.LaysOut (backend : Backend) (d : Dialect α σ)
    (rule : Children → String → Component → Tree α σ) (head : Head α σ → Prop)
    (accepted : String → Prop) : Prop where
  written : ∀ c handle (component : Component),
    component.write backend c handle = (rule c handle component).render d
  onOneLine : d.OnOneLine head
  related : ∀ {R : String → String → Prop}, KeepsEmptiness R → ∀ {c c' : Children},
    c.Related R c' → ∀ handle component,
      Tree.Related R (rule c handle component) (rule c' handle component)
  heads : ∀ {c : Children}, c.All accepted → ∀ handle component,
    (rule c handle component).All head accepted
  nothing : accepted ""
  node : ∀ (n : Node) (c : Children) (handle : String), c.All accepted →
    accepted (n.emit backend c handle)

open MiniApp.Tree (LaidOut)

/-- A fragment is the text of the part of a name, and both are empty together. -/
def Shows (d : Dialect α σ) (head : Head α σ → Prop) (parts : List (Part α σ))
    (fragment name : String) : Prop :=
  LaidOut d head fragment (Part.named parts name) ∧ (fragment = "" ↔ name = "")

theorem laidOut_emit (laws : backend.LaysOut d rule head accepted) (n : Node) {c : Children}
    (hc : c.All accepted) {parts : List (Part α σ)}
    (h : c.Related (Shows d head parts) (Part.children parts)) (handle : String) :
    LaidOut d head (n.emit backend c handle) (n.elements rule parts handle) := by
  have keeps : KeepsEmptiness (Shows d head parts) := fun _ _ shows => shows.2
  have laid : ∀ f name, Shows d head parts f name → LaidOut d head f (Part.named parts name) :=
    fun _ _ shows => shows.1
  rw [Node.emit_eq, Node.elements]
  cases n.component? with
  | some component =>
    have same := laws.related keeps h handle component
    have heads := laws.heads hc handle component
    refine ⟨?_, (same.tidy_fill laid heads).2⟩
    rw [elementsAs, same.lines_fill laws.onOneLine laid heads 0]
    exact laws.written c handle component
  | none =>
    have fragments : List.Forall₂ (LaidOut d head) c.all
        ((Part.children parts).all.map (Part.named parts)) := by
      rw [List.forall₂_map_right_iff]
      exact (h.all keeps).imp laid
    exact Tree.laidOut_intercalate laws.onOneLine fragments
      fun _ hf => Children.ne_empty_of_mem_shown hf

def Shown (d : Dialect α σ) (head : Head α σ → Prop) (f : Option String × String)
    (p : Part α σ) : Prop :=
  f.1 = p.slot ∧ LaidOut d head f.2 p.elements

theorem related_children (laws : backend.LaysOut d rule head accepted) {number : Nat}
    {links : List (Option String × Unfolding)} {fs : List (Option String × String)}
    (h : List.Forall₂ (Shown d head) fs (Unfolding.parts rule number links)) :
    (Children.ofList fs).Related (Shows d head (Unfolding.parts rule number links))
      (Part.children (Unfolding.parts rule number links)) := by
  refine Children.related_ofList (List.forall₂_map_right_iff.2 ?_)
  have listed := (List.forall₂_and_left (p := (· ∈ Unfolding.parts rule number links)) _ _).2
    ⟨fun _ hp => hp, h.flip⟩
  refine listed.flip.imp fun f p ⟨hp, slot, laid⟩ => ⟨slot, ?_, ?_⟩
  · rwa [Unfolding.named_of_mem hp]
  · rw [laid.eq_empty_iff laws.onOneLine]
    rcases Unfolding.mem_parts hp with ⟨name, none⟩ | ⟨k, name, shows, -, -⟩
    · exact iff_of_true none name
    · exact iff_of_false shows (name ▸ handleAt_ne_empty k)

namespace Unfolding

mutual

theorem laidOut_fragment (laws : backend.LaysOut d rule head accepted) (number : Nat)
    (u : Unfolding) : LaidOut d head (u.fragment backend number) (u.elements rule number) := by
  cases u with
  | node n links =>
    rw [fragment, elements]
    exact laidOut_emit laws n (all_ofList_fragments laws.nothing laws.node (number + 1) links)
      (related_children laws (shown_fragments laws (number + 1) links)) (handleAt number)
  | cycle | tooDeep | dangling | hidden => simpa only [fragment, elements] using LaidOut.nil

theorem shown_fragments (laws : backend.LaysOut d rule head accepted) (number : Nat)
    (links : List (Option String × Unfolding)) :
    List.Forall₂ (Shown d head) (fragments backend number links) (parts rule number links) := by
  cases links with
  | nil => exact .nil
  | cons l links =>
    obtain ⟨slot, u⟩ := l
    rw [fragments, parts]
    exact .cons ⟨rfl, laidOut_fragment laws number u⟩ (shown_fragments laws (number + u.size) links)

end

end Unfolding

end Writing

theorem DocumentRule.laysOut : Backend.document.LaysOut Markup.dialect Component.markup
    Markup.SafeHead Markup.Accepted where
  written _ _ _ := rfl
  onOneLine := Markup.onOneLine
  related keeps _ _ h handle component := related_markup keeps h handle component
  heads hc handle component := safe_markup hc handle component
  nothing := acceptedBy_empty rfl
  node := accepted_emit

theorem ProjectRule.laysOut : Backend.project.LaysOut Jsx.dialect Component.jsx
    Jsx.SafeHead Jsx.Accepted where
  written _ _ _ := rfl
  onOneLine := Jsx.onOneLine
  related keeps _ _ h handle component := related_jsx keeps h handle component
  heads hc handle component := safe_jsx hc handle component
  nothing := acceptedBy_empty rfl
  node n _ handle h := accepted_emit_project h n handle

/-- The text is what one writer writes for elements without any fragments in them, and at a deeper
level it writes the lines of the text, moved right. -/
structure WrittenOnce (d : Dialect α σ) (ts : List (Tree α σ)) (output : String) : Prop where
  written : output = (Tree.writeAll d ts .empty).finish
  whole : ∀ t ∈ ts, t.Tidy fun _ => True
  moved : ∀ level, (Tree.writeAll d ts ⟨[], level⟩).lines =
    (Text.linesOf output).map (indented level)

theorem Tree.LaidOut.writtenOnce {d : Dialect α σ} {head : Head α σ → Prop}
    (laws : d.OnOneLine head) {ts : List (Tree α σ)} {output : String}
    (h : LaidOut d head output ts) : WrittenOnce d ts output where
  written := by rw [finish_writeAll, h.text]
  whole t ht := (h.tidy t ht).imp fun _ _ => trivial
  moved level := by
    rw [writeAll_eq, h.text, linesOf_finishLines (solid_linesOfAll laws h.tidy 0),
      ← linesOfAll_add, Nat.add_zero]
    rfl

/-- However deep the nodes of a graph are nested, a walk renders what one writer writes from the top
down for the elements of the whole graph, whatever strings the properties hold. -/
theorem walk_written_once (g : Graph) :
    WrittenOnce Markup.dialect (g.elements Component.markup) (walk g .document).output ∧
    WrittenOnce Jsx.dialect (g.elements Component.jsx) (walk g .project).output := by
  rw [output_eq_fragment, output_eq_fragment]
  exact ⟨(g.unfold.laidOut_fragment DocumentRule.laysOut 1).writtenOnce Markup.onOneLine,
    (g.unfold.laidOut_fragment ProjectRule.laysOut 1).writtenOnce Jsx.onOneLine⟩

end MiniApp

import Mathlib.Data.List.Flatten
import MiniApp.Proofs.Component.References
import MiniApp.Proofs.Walk.Elements

set_option autoImplicit false

namespace MiniApp

open Markup

section Numbers

def idEndings : List String := ["", "-title", "-input"]

def LinkAt (number : Nat) (l : String × Option String) : Prop :=
  ∃ ending ∈ idEndings, l.2 = some (handleAt number ++ ending)

def numberIn (id : String) : Nat :=
  Nat.ofDigitChars 10 ((id.toList.drop 2).takeWhile fun c => c ≠ '-') 0

theorem takeWhile_idAt {ending : String} (h : ending ∈ idEndings) (number : Nat) :
    ((handleAt number ++ ending).toList.drop 2).takeWhile (fun c => c ≠ '-') =
      Nat.toDigits 10 number := by
  have digits : ∀ c ∈ Nat.toDigits 10 number, decide (c ≠ '-') = true := by
    intro c hc
    have digit := Nat.isDigit_of_mem_toDigits (by decide) (Nat.le_refl 10) hc
    rw [decide_eq_true_iff]
    rintro rfl
    exact absurd digit (by decide)
  have ends : ∀ e ∈ idEndings, (e.toList.takeWhile fun c => decide (c ≠ '-')) = [] := by decide
  rw [String.toList_append, toList_handleAt, List.cons_append, List.cons_append, List.drop_succ_cons,
    List.drop_succ_cons, List.drop_zero, List.takeWhile_append_of_pos digits, ends _ h,
    List.append_nil]

theorem numberIn_idAt {ending : String} (h : ending ∈ idEndings) (number : Nat) :
    numberIn (handleAt number ++ ending) = number := by
  rw [numberIn, takeWhile_idAt h, Nat.ofDigitChars_ten_toDigits]

theorem LinkAt.unique {m n : Nat} {l : String × Option String} (hm : LinkAt m l)
    (hn : LinkAt n l) : m = n := by
  obtain ⟨e, he, hm⟩ := hm
  obtain ⟨e', he', hn⟩ := hn
  rw [← numberIn_idAt he m, Option.some.inj (hm.symm.trans hn), numberIn_idAt he' n]

end Numbers

/-- Links of the components with some numbers: they are distinct, and resolve among themselves. -/
structure LinksIn (low high : Nat) (ls : List (String × Option String)) : Prop where
  distinct : ls.Nodup
  resolved : Resolved ls
  numbered : ∀ l ∈ ls, ∃ number, low ≤ number ∧ number < high ∧ LinkAt number l

namespace LinksIn

theorem nil (low high : Nat) : LinksIn low high [] :=
  ⟨List.nodup_nil, List.forall_mem_nil _, List.forall_mem_nil _⟩

theorem append {low mid high : Nat} {ls ms : List (String × Option String)}
    (hl : LinksIn low mid ls) (hm : LinksIn mid high ms) (lowMid : low ≤ mid) (midHigh : mid ≤ high) :
    LinksIn low high (ls ++ ms) where
  distinct := by
    refine List.nodup_append.2 ⟨hl.distinct, hm.distinct, fun l hl' m hm' same => ?_⟩
    subst same
    obtain ⟨j, -, below, atJ⟩ := hl.numbered l hl'
    obtain ⟨k, above, -, atK⟩ := hm.numbered l hm'
    have one := atJ.unique atK
    omega
  resolved := resolved_append hl.resolved hm.resolved
  numbered := List.forall_mem_append.2
    ⟨fun l h => by
      obtain ⟨number, above, below, here⟩ := hl.numbered l h
      exact ⟨number, above, by omega, here⟩,
    fun l h => by
      obtain ⟨number, above, below, here⟩ := hm.numbered l h
      exact ⟨number, by omega, below, here⟩⟩

theorem placed {low high : Nat} {names fs : List String} {f : String → List (String × Option String)}
    (h : LinksIn low high (names.flatMap f)) (each : ∀ name ∈ names, Resolved (f name))
    (sub : fs.Subperm names) : LinksIn low high (fs.flatMap f) where
  distinct := by
    obtain ⟨gs, perm, sublist⟩ := sub
    exact (perm.flatMap_right f).nodup_iff.1 (h.distinct.sublist (sublist.flatMap f))
  resolved := resolved_flatMap fun name hn => each name (sub.subset hn)
  numbered l hl := by
    obtain ⟨name, hn, hl⟩ := List.mem_flatMap.1 hl
    exact h.numbered l (List.mem_flatMap.2 ⟨name, sub.subset hn, hl⟩)

end LinksIn

theorem Component.linksIn_own (component : Component) (number : Nat) :
    LinksIn number (number + 1) (component.ownLinks (handleAt number)) := by
  have of {ls : List (String × Option String)} (distinct : ls.Nodup) (resolved : Resolved ls)
      (own : ∀ l ∈ ls, LinkAt number l) : LinksIn number (number + 1) ls :=
    ⟨distinct, resolved, fun l hl => ⟨number, Nat.le_refl _, Nat.lt_succ_self _, own l hl⟩⟩
  have handle (name : String) : LinkAt number (name, some (handleAt number)) :=
    ⟨"", by decide, by rw [String.append_empty]⟩
  have title (name : String) : LinkAt number (name, some (handleAt number ++ "-title")) :=
    ⟨"-title", by decide, rfl⟩
  have field (name : String) : LinkAt number (name, some (handleAt number ++ "-input")) :=
    ⟨"-input", by decide, rfl⟩
  cases component with
  | carousel m =>
    exact of (List.nodup_singleton _) (by simp [Resolved, ownLinks])
      (List.forall_mem_singleton.2 (handle _))
  | sheet m =>
    refine of ?_ (by simp [Resolved, ownLinks]) ?_
    · have apart : handleAt number ≠ handleAt number ++ "-title" := by
        intro same
        have chars := congrArg String.toList same
        rw [String.toList_append, List.self_eq_append_right] at chars
        exact absurd chars (by decide)
      simp [ownLinks, apart]
    · simp only [ownLinks, List.forall_mem_cons]
      exact ⟨handle _, handle _, title _, title _, List.forall_mem_nil _⟩
  | input m =>
    refine of (by simp [ownLinks]) (by simp [Resolved, ownLinks]) ?_
    exact List.forall_mem_cons.2 ⟨field _, List.forall_mem_singleton.2 (field _)⟩
  | _ => exact .nil _ _

def treeLinks (ts : List Markup.Tree) : List (String × Option String) :=
  linksOf (tagsOfAll (fun _ => []) ts)

theorem treeLinks_flatMap {α : Type} (f : α → List Markup.Tree) (xs : List α) :
    treeLinks (xs.flatMap f) = xs.flatMap fun x => treeLinks (f x) := by
  induction xs with
  | nil => rfl
  | cons x xs ih =>
    rw [List.flatMap_cons, treeLinks, linksOf_all_append, ← treeLinks, ← treeLinks, ih,
      List.flatMap_cons]

theorem Node.links_elements (n : Node) (ps : List (Part Attr String)) (number : Nat) :
    ∃ (own : List (String × Option String)) (fs : List String),
      LinksIn number (number + 1) own ∧ fs.Subperm (ps.map Part.name) ∧
        treeLinks (n.elements Component.markup ps (handleAt number)) =
          own ++ fs.flatMap fun f => treeLinks (Part.named ps f) := by
  have all : (Part.children ps).all.Subperm (ps.map Part.name) := by
    have all := Children.subperm_all_ofList (ps.map fun p => (p.slot, p.name))
    rwa [List.map_map] at all
  rw [Node.elements]
  cases n.component? with
  | some component =>
    obtain ⟨fs, placed, read⟩ :=
      DocumentRule.placedOnce_markup (Part.children ps) (handleAt number) component
    refine ⟨_, fs, component.linksIn_own number, placed.trans all, ?_⟩
    rw [elementsAs, treeLinks, tagsOfAll_fill, read]
    rfl
  | none => exact ⟨[], _, .nil _ _, all, treeLinks_flatMap _ _⟩

namespace Unfolding

mutual

theorem linksIn_elements (number : Nat) (u : Unfolding) :
    LinksIn number (number + u.size) (treeLinks (u.elements Component.markup number)) := by
  cases u with
  | node n links =>
    obtain ⟨own, fs, ownIn, placed, written⟩ :=
      n.links_elements (parts Component.markup (number + 1) links) number
    obtain ⟨below, each⟩ := linksIn_parts (number + 1) links
    have named : ∀ p ∈ parts Component.markup (number + 1) links,
        treeLinks (Part.named (parts Component.markup (number + 1) links) p.name) =
          treeLinks p.elements := fun p hp => congrArg treeLinks (named_of_mem hp)
    have parts : LinksIn (number + 1) (number + 1 + sizeOfLinks links)
        (fs.flatMap fun f => treeLinks (Part.named (parts Component.markup (number + 1) links) f)) := by
      refine LinksIn.placed ?_ ?_ placed
      · rwa [List.flatMap_map, List.flatMap_congr named]
      · exact List.forall_mem_map.2 fun p hp => (named p hp) ▸ each p hp
    rw [elements, written, size]
    have all := ownIn.append parts (Nat.le_succ _) (Nat.le_add_right _ _)
    rwa [Nat.add_assoc] at all
  | cycle | tooDeep | dangling | hidden => exact .nil _ _

theorem linksIn_parts (number : Nat) (links : List (Option String × Unfolding)) :
    LinksIn number (number + sizeOfLinks links)
      ((parts Component.markup number links).flatMap fun p => treeLinks p.elements) ∧
    ∀ p ∈ parts Component.markup number links, Resolved (treeLinks p.elements) := by
  cases links with
  | nil => exact ⟨.nil _ _, List.forall_mem_nil _⟩
  | cons l links =>
    obtain ⟨slot, u⟩ := l
    have first := linksIn_elements number u
    obtain ⟨rest, each⟩ := linksIn_parts (number + u.size) links
    rw [parts, sizeOfLinks, List.flatMap_cons, List.forall_mem_cons, ← Nat.add_assoc]
    exact ⟨first.append rest (Nat.le_add_right _ _) (Nat.le_add_right _ _), first.resolved, each⟩

end

end Unfolding

/-- A walk is read back as the tags of the elements of the whole graph. -/
theorem read?_output (g : Graph) : read? (walk g .document).output =
    some (tagsOfAll (fun _ => []) (g.elements Component.markup)) := by
  have laid := g.unfold.laidOut_fragment DocumentRule.laysOut 1
  rw [output_eq_fragment, laid.text, read?_eq_some_iff, tagsOfAll_eq]
  refine Scanner.scan_finishLines reading_lawful.breaks (Reading.scan_linesOfAll 0 fun t ht => ?_)
  exact reading_lawful.scan_lines ((laid.tidy t ht).all _) 0

end MiniApp

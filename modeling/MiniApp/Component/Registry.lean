import MiniApp.Component.Catalog
import MiniApp.Component.ProjectRule
import MiniApp.Table
import MiniApp.Text.Blank
import MiniApp.Text.Case

/-!
A registry finds the component that a tag names. Tags are compared in lower case and without
hyphens, underscores and blanks; the last kind written under a tag counts, once that kind has an
entry. A component of an entry is written out for a document or for a project, each by rules of its
own.
-/

set_option autoImplicit false

namespace MiniApp

def normalizeTag (tag : String) : String :=
  String.ofList (Text.lower (tag.toList.filter fun c => c ≠ '-' ∧ c ≠ '_' ∧ Text.isBlank c = false))

inductive TagLookup where
  | known (kind : Kind)
  | unknown (tag : String)
deriving DecidableEq

structure Registry where
  entries : Table Kind Entry
  tags : Table String Kind

namespace Registry

def empty : Registry := ⟨.empty, .empty⟩

/-- Adds a kind under its canonical tag, or replaces its entry. -/
def register (r : Registry) (e : Entry) : Registry :=
  ⟨r.entries.insert e.kind e, r.tags.insert (normalizeTag e.kind.name) e.kind⟩

def addTag (r : Registry) (tag : String) (kind : Kind) : Registry :=
  { r with tags := r.tags.insert (normalizeTag tag) kind }

def resolve (r : Registry) (tag : String) : TagLookup :=
  match r.tags.get? (normalizeTag tag) with
  | some kind => if r.entries.contains kind then .known kind else .unknown tag
  | none => .unknown tag

def entry? (r : Registry) (kind : Kind) : Option Entry := r.entries.get? kind

def get? (r : Registry) (tag : String) : Option Entry :=
  match r.resolve tag with
  | .known kind => r.entry? kind
  | .unknown _ => none

def contains (r : Registry) (tag : String) : Bool := (r.get? tag).isSome

def kinds (r : Registry) : List Kind := r.entries.keys

def size (r : Registry) : Nat := r.entries.size

def builtin : Registry :=
  Catalog.aliases.foldl (fun r a => r.addTag a.1 a.2)
    (Kind.all.foldl (fun r k => r.register (Catalog.entry k)) empty)

theorem isSome_entry?_of_resolve {r : Registry} {tag : String} {kind : Kind}
    (h : r.resolve tag = .known kind) : (r.entry? kind).isSome = true := by
  unfold resolve at h
  split at h
  · split at h
    · rename_i hk
      cases h
      exact hk
    · cases h
  · cases h

theorem contains_iff (r : Registry) (tag : String) :
    r.contains tag = true ↔ ∃ kind, r.resolve tag = .known kind := by
  unfold contains get?
  cases h : r.resolve tag with
  | known kind => simp [isSome_entry?_of_resolve h]
  | unknown tag => simp

end Registry

/-- What is generated: a document that runs by itself, or a project to build one from. -/
inductive Backend where
  | document | project
deriving DecidableEq

def Entry.emit (e : Entry) (backend : Backend) (props : Fields) (c : Children) (handle : String) :
    Except PropError String :=
  match backend with
  | .document => (DocumentRule.tree e.kind ⟨props, e.defaults⟩ c handle).map Markup.render
  | .project => (ProjectRule.tree e.kind ⟨props, e.defaults⟩ c handle).map Jsx.render

end MiniApp

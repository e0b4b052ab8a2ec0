import MiniApp.Proofs.Jsx.StartTag
import MiniApp.Proofs.Source.Reading

set_option autoImplicit false

namespace MiniApp.Jsx

/-- What the parts of an element are read as. Text adds nothing but its line breaks. -/
def reading : Reading Attr Style Mode Tag where
  dialect := dialect
  step := step
  text := .text
  opened h := [.opening h.name (props h)]
  closed h := [.closing h.name]
  childless h := [.selfClosing h.name (props h)]
  words s := List.replicate (s.toList.count '\n') lineBreak

theorem reading_lawful : reading.Lawful SafeHead where
  breaks := breaksIn_text
  opened := scan_opening
  closed := scan_closing
  childless := scan_childless
  words := scan_text

/-- The names of the open elements after one tag, the innermost first. An end tag closes the
innermost one alone. -/
def turn : List String → Tag → Option (List String)
  | stack, .opening name _ => some (name :: stack)
  | stack, .selfClosing _ _ => some stack
  | [], .closing _ => none
  | top :: stack, .closing name => if top = name then some stack else none

def openAfter (stack : List String) (tags : List Tag) : Option (List String) :=
  tags.foldlM turn stack

/-- The tags close what they open, in the opposite order, and keep to the vocabulary. -/
abbrev WellFormed : List Tag → Prop := WellNested turn Tag.Allowed

def tagsIn (fragment : String) : List Tag := (read? fragment).getD []

abbrev Accepted : String → Prop := AcceptedBy read? WellFormed

def SafeTree (t : Jsx.Tree) : Prop := t.All SafeHead Accepted

section WellFormed

theorem wellFormed_words (s : String) : WellFormed (reading.words s) := by
  have one : WellFormed [lineBreak] :=
    wellNested_one (fun _ => rfl) ⟨by decide, List.forall_mem_nil _⟩
  exact one.replicate _

variable {h : Head} (safe : SafeHead h)
include safe

theorem wellFormed_childless : WellFormed (reading.childless h) :=
  wellNested_one (fun _ => rfl) ⟨safe.name, allowedProp_of_mem_props safe⟩

theorem wellFormed_element {tags : List Tag} (below : WellFormed tags) :
    WellFormed (reading.opened h ++ (tags ++ reading.closed h)) :=
  .element h.name (fun _ => rfl) (fun _ => if_pos rfl)
    ⟨safe.name, allowedProp_of_mem_props safe⟩ safe.name below

end WellFormed

/-- A safe tree is read back as the tags that it is made of. -/
theorem read?_render {t : Jsx.Tree} (safe : SafeTree t) :
    read? (render t) = some (reading.tagsOf tagsIn t) :=
  read?_eq_some_iff.2 (reading_lawful.takes_render
    (safe.imp fun _ h => read?_eq_some_iff.1 h.read_eq))

theorem wellFormed_tagsOf {t : Jsx.Tree} (safe : SafeTree t) :
    WellFormed (reading.tagsOf tagsIn t) :=
  Reading.forall_tagsOf wellNested_nil .append wellFormed_words wellFormed_childless
    (fun heads _ below => wellFormed_element heads below) (safe.imp fun _ h => h.good)

end MiniApp.Jsx

import MiniApp.Proofs.Markup.StartTag
import MiniApp.Proofs.Source.Reading

set_option autoImplicit false

namespace MiniApp.Markup

mutual

/-- The tags that a tree is made of, given those of the fragments in it. Text adds nothing but its
line breaks. -/
def tagsOf (read : String → List Tag) : Markup.Tree → List Tag
  | .text s => List.replicate (s.toList.count '\n') lineBreak
  | .raw fragment => read fragment
  | .element head children =>
    if head.isVoid then [startTag head]
    else startTag head :: (tagsOfAll read children ++ [.closing head.name])

def tagsOfAll (read : String → List Tag) : List Markup.Tree → List Tag
  | [] => []
  | t :: ts => tagsOf read t ++ tagsOfAll read ts

end

/-- The names of the open elements after one tag, the innermost first. An end tag closes the
innermost one alone, and void elements are never open. -/
def turn : List String → Tag → Option (List String)
  | stack, .opening name _ => some (if name ∈ voidNames then stack else name :: stack)
  | [], .closing _ => none
  | top :: stack, .closing name => if top = name then some stack else none

def openAfter (stack : List String) (tags : List Tag) : Option (List String) :=
  tags.foldlM turn stack

/-- The tags close what they open, in the opposite order, and keep to the vocabulary. -/
abbrev WellFormed : List Tag → Prop := WellNested turn Tag.Allowed

def tagsIn (fragment : String) : List Tag := (read? fragment).getD []

abbrev Accepted : String → Prop := AcceptedBy read? WellFormed

def SafeTree (t : Markup.Tree) : Prop := t.All SafeHead Accepted

theorem tagsOfAll_eq_flatMap (read : String → List Tag) (ts : List Markup.Tree) :
    tagsOfAll read ts = ts.flatMap (tagsOf read) := by
  induction ts with
  | nil => rfl
  | cons t ts ih => rw [tagsOfAll, ih, List.flatMap_cons]

section WellFormed

variable {h : Head} (safe : SafeHead h)
include safe

theorem SafeHead.mem_blockNames (hv : h.isVoid = false) : h.name ∈ blockNames := by
  simpa [hv] using safe.name

theorem SafeHead.mem_voidNames (hv : h.isVoid = true) : h.name ∈ voidNames := by
  simpa [hv] using safe.name

theorem wellFormed_startTag (hv : h.isVoid = true) : WellFormed [startTag h] :=
  wellNested_one (fun stack => by rw [startTag, turn, if_pos (safe.mem_voidNames hv)])
    (startTag_allowed safe)

theorem wellFormed_element (hv : h.isVoid = false) {tags : List Tag} (below : WellFormed tags) :
    WellFormed (startTag h :: (tags ++ [Tag.closing h.name])) := by
  have block := safe.mem_blockNames hv
  refine .element h.name (fun stack => ?_) (fun stack => if_pos rfl)
    (startTag_allowed safe) block below
  rw [startTag, turn, if_neg (notMem_voidNames h.name block)]

end WellFormed

def reading : Reading Attr String Mode Tag where
  dialect := dialect
  step := step
  text := .text
  opened h := [startTag h]
  closed h := [.closing h.name]
  childless h := if h.isVoid then [startTag h] else [startTag h, .closing h.name]
  words s := List.replicate (s.toList.count '\n') lineBreak

theorem wellFormed_words (s : String) : WellFormed (reading.words s) := by
  have one : WellFormed [lineBreak] :=
    wellNested_one (fun _ => rfl) ⟨by decide, List.forall_mem_nil _⟩
  exact one.replicate _

theorem scan_childless {h : Head} (legible : Legible h) :
    Scanner.scan step .text (childless h).toList = some (.text, reading.childless h) := by
  change _ = some (_, if _ then _ else _)
  rw [childless]
  split
  · exact scan_opening legible
  · rw [String.toList_append]
    exact Scanner.scan_append (scan_opening legible) (scan_closing legible)

theorem reading_legible : reading.Lawful Legible where
  breaks := breaksIn_text
  opened := scan_opening
  closed := scan_closing
  childless := scan_childless
  words := scan_text

theorem reading_lawful : reading.Lawful SafeHead := reading_legible.mono SafeHead.legible

mutual

theorem tagsOf_eq (read : String → List Tag) (t : Markup.Tree) :
    tagsOf read t = reading.tagsOf read t := by
  cases t with
  | text | raw => rfl
  | element head children =>
    rw [tagsOf, Reading.tagsOf, tagsOfAll_eq read children]
    cases hv : head.isVoid with
    | true =>
      change _ = if _ then (if head.isVoid then _ else _) else _
      simp [hv]
    | false =>
      cases children with
      | nil =>
        change _ = if _ then (if head.isVoid then _ else _) else _
        simp [hv, Reading.tagsOfAll]
      | cons => rfl

theorem tagsOfAll_eq (read : String → List Tag) (ts : List Markup.Tree) :
    tagsOfAll read ts = reading.tagsOfAll read ts := by
  cases ts with
  | nil => rfl
  | cons t ts => rw [tagsOfAll, Reading.tagsOfAll, tagsOf_eq read t, tagsOfAll_eq read ts]

end

theorem wellFormed_tagsOf {t : Markup.Tree} (safe : SafeTree t) :
    WellFormed (tagsOf tagsIn t) := by
  rw [tagsOf_eq]
  refine Reading.forall_tagsOf wellNested_nil .append wellFormed_words
    (fun {h} heads => ?_) (fun heads hv below => wellFormed_element heads hv below)
    (safe.imp fun _ h => h.good)
  cases hv : h.isVoid with
  | true => simpa [reading, hv] using wellFormed_startTag heads hv
  | false => simpa [reading, hv] using wellFormed_element heads hv wellNested_nil

theorem read?_render {t : Markup.Tree} (safe : SafeTree t) :
    read? (render t) = some (tagsOf tagsIn t) := by
  rw [tagsOf_eq]
  exact read?_eq_some_iff.2 (reading_lawful.takes_render
    (safe.imp fun _ h => read?_eq_some_iff.1 h.read_eq))

end MiniApp.Markup

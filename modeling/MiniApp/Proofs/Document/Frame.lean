import Mathlib.Algebra.GroupWithZero.Nat
import MiniApp.Proofs.Document.Parts
import MiniApp.Proofs.Walk.Injection

/-!
# The frame of a document cannot be broken out of

A document has one style element and one title element, and one script element when there is
something to show. All of their tags are written by the frame: what is filled in holds no bracket
that opens anything but the tags of a body.
-/

set_option autoImplicit false

namespace MiniApp

open Text (Opens occurrences lowerAscii opens_of_notMem)

/-- The tags of a frame and the start of a comment, and how often each of them stands in a document;
there is a script when the document shows something. -/
def frameMarks (shows : Bool) : List (String × Nat) :=
  let scripts := if shows then 1 else 0
  [("<style", 1), ("</style", 1), ("<title", 1), ("</title", 1), ("<!--", 0),
    ("<script", scripts), ("</script", scripts)]

/-- How often a mark stands in a text, in whatever case it is written there. -/
def countIn (text mark : String) : Nat := occurrences mark.toList (lowerAscii text.toList)

/-- A bracket and a way to go on that no variable part of a frame has. No mark reaches beyond the
fixed text that it stands in, since those texts end in a quote, a closing bracket or a break. -/
structure IsMark (mark : List Char) : Prop where
  bracket : ∃ tail, mark = '<' :: tail ∧ Text.Apart frameWords tail
  separated : ∀ c ∈ ['"', '>', '\n'], c ∉ mark

theorem isMark_of_mem_frameMarks {shows : Bool} {mark : String × Nat}
    (h : mark ∈ frameMarks shows) : IsMark mark.1.toList := by
  have known : ∀ m ∈ (frameMarks shows).map Prod.fst, m.toList = '<' :: m.toList.tail ∧
      Text.Apart frameWords m.toList.tail ∧
        (['"', '>', '\n'].all fun c => !m.toList.contains c) = true := by
    cases shows <;> decide +kernel
  obtain ⟨bracket, apart, separated⟩ := known mark.1 (List.mem_map_of_mem h)
  exact ⟨⟨_, bracket, apart⟩, by simpa using separated⟩

namespace Template

def fixedText : Piece → List Char
  | .text s => lowerAscii s.toList
  | _ => []

/-- A fixed text that marks do not reach beyond, or a part that no mark starts in. -/
def Framed (data : Fields) : Piece → Prop
  | .text s => ∃ c ∈ ['"', '>', '\n'], (lowerAscii s.toList).getLast? = some c
  | p => Opens frameWords (expand data p).toList

theorem occurrences_expand_append {mark : List Char} (hm : IsMark mark) {data : Fields} {p : Piece}
    (hp : Framed data p) (rest : List Char) :
    occurrences mark (lowerAscii ((expand data p).toList ++ rest)) =
      occurrences mark (fixedText p) + occurrences mark (lowerAscii rest) := by
  obtain ⟨tail, rfl, apart⟩ := hm.bracket
  have variablePart (h : Opens frameWords (expand data p).toList) :
      occurrences ('<' :: tail) (lowerAscii ((expand data p).toList ++ rest)) =
        occurrences ('<' :: tail) [] + occurrences ('<' :: tail) (lowerAscii rest) := by
    rw [Text.occurrences_opens_append apart h, occurrences, Nat.zero_add]
  cases p with
  | text s =>
    obtain ⟨c, hc, hlast⟩ := hp
    obtain ⟨before, hb⟩ := List.getLast?_eq_some_iff.1 hlast
    have apart := hm.separated c hc
    have ends := Text.occurrences_append_cons apart (List.cons_ne_nil _ _) before []
    rw [expand, Text.lowerAscii_append, fixedText, hb, List.append_assoc, List.singleton_append,
      Text.occurrences_append_cons apart (List.cons_ne_nil _ _), ends, occurrences.eq_1,
      Nat.add_zero]
  | value | indent | json | whenTrue | unknown => exact variablePart hp

theorem occurrences_expandAll {mark : List Char} (hm : IsMark mark) {data : Fields}
    {pieces : List Piece} (h : ∀ p ∈ pieces, Framed data p) :
    occurrences mark (lowerAscii (expandAll data pieces).toList) =
      ((pieces.map fixedText).map (occurrences mark)).sum := by
  induction pieces with
  | nil => rfl
  | cons p pieces ih =>
    rw [List.forall_mem_cons] at h
    rw [expandAll, String.toList_append, occurrences_expand_append hm h.1, ih h.2]
    rfl

def isFramed : Piece → Bool
  | .text s => (lowerAscii s.toList).getLast?.any fun c => ['"', '>', '\n'].contains c
  | .value _ => true
  | .indent (some (.name _)) _ => true
  | _ => false

def frames (shows : Bool) (pieces : List Piece) : Bool :=
  pieces.all isFramed && (frameMarks shows).all fun mark =>
    ((pieces.map fixedText).map (occurrences mark.1.toList)).sum == mark.2

/-- The values are texts that open nothing but the tags of a body. -/
def Harmless (data : Fields) : Prop := ∀ f ∈ data, ∃ s, f.2 = .string s ∧ Opens frameWords s.toList

theorem opens_lookup {data : Fields} (h : Harmless data) {key : String} {v : Json}
    (hv : data.lookup key = some v) : ∃ s, v = .string s ∧ Opens frameWords s.toList := by
  induction data with
  | nil => cases hv
  | cons f data ih =>
    rw [Harmless, List.forall_mem_cons] at h
    rw [List.lookup_cons] at hv
    split at hv
    · cases hv
      exact h.1
    · exact ih h.2 hv

theorem framed_of_isFramed {data : Fields} (h : Harmless data) {p : Piece}
    (hp : isFramed p = true) : Framed data p := by
  cases p with
  | text s =>
    obtain ⟨c, hlast, hc⟩ := (Option.any_eq_true _ _).1 hp
    exact ⟨c, List.contains_iff_mem.1 hc, hlast⟩
  | value key =>
    show Opens frameWords (((data.lookup key).map shown).getD "").toList
    cases hv : data.lookup key with
    | none => exact .nil
    | some v =>
      obtain ⟨s, rfl, hs⟩ := opens_lookup h hv
      exact hs
  | indent text width =>
    obtain - | ⟨key⟩ | _ := text
    · cases hp
    · refine opens_indentBlock unbroken_frameWords ?_ _
      show Opens frameWords (indentText (data.lookup key)).toList
      cases hv : data.lookup key with
      | none => exact .nil
      | some v =>
        obtain ⟨s, rfl, hs⟩ := opens_lookup h hv
        exact hs
    · cases hp
  | json | whenTrue | unknown => cases hp

theorem count_fill {t : Template} {shows : Bool} (ht : frames shows t.pieces = true)
    {data : Fields} (h : Harmless data) :
    ∀ mark ∈ frameMarks shows, countIn (t.fill data) mark.1 = mark.2 := by
  intro mark hm
  rw [frames, Bool.and_eq_true, List.all_eq_true, List.all_eq_true] at ht
  rw [countIn, fill, occurrences_expandAll (isMark_of_mem_frameMarks hm)
    fun p hp => framed_of_isFramed h (ht.1 p hp)]
  exact beq_iff_eq.1 (ht.2 mark hm)

end Template

namespace Asset

theorem frames_shell : Template.frames true shell.pieces = true := by
  simp only [Template.frames, shell, List.map_cons, List.map_nil, Template.fixedText, List.all_cons,
    List.all_nil, Template.isFramed, toList_fileText, String.toList_append, List.flatMap_cons,
    List.flatMap_nil]
  repeat rw [String.toList_ofList]
  decide +kernel

theorem frames_placeholder : Template.frames false placeholder.pieces = true := by
  simp only [Template.frames, placeholder, List.map_cons, List.map_nil, Template.fixedText,
    List.all_cons, List.all_nil, Template.isFramed, toList_fileText, String.toList_append,
    List.flatMap_cons, List.flatMap_nil]
  repeat rw [String.toList_ofList]
  decide +kernel

end Asset

namespace Document

open Template (Harmless)

variable (o : DocumentOptions)

theorem notMem_languageTag : '<' ∉ o.languageTag.toList := by
  rw [DocumentOptions.languageTag]
  split
  · next tag =>
    intro hm
    rw [DocumentOptions.isLanguageTag, Bool.and_eq_true, List.all_eq_true] at tag
    exact absurd (tag.2 _ hm) (by decide)
  · decide

theorem notMem_theme (isDark : Bool) : '<' ∉ (Theme.name isDark).toList := by cases isDark <;> decide

theorem harmless_frameValues (title : String) : Harmless (frameValues o title) := by
  simp only [Harmless, frameValues, List.forall_mem_cons]
  exact ⟨⟨_, rfl, opens_of_notMem (notMem_languageTag o)⟩,
    ⟨_, rfl, opens_of_notMem (notMem_theme o.darkMode)⟩,
    ⟨_, rfl, opens_of_notMem (Markup.notMem_markup title)⟩,
    ⟨_, rfl, opens_comparison (Theme.opens_stylesheet o.title o.darkMode)⟩, List.forall_mem_nil _⟩

theorem count_placeholder (reason : String) :
    ∀ mark ∈ frameMarks false, countIn (placeholder o reason) mark.1 = mark.2 := by
  refine Template.count_fill Asset.frames_placeholder
    (List.forall_mem_append.2 ⟨harmless_frameValues o o.title, List.forall_mem_singleton.2 ?_⟩)
  exact ⟨_, rfl, opens_of_notMem (Markup.notMem_markup reason)⟩

theorem opens_mainElement {body : String} (hb : Opens Markup.bodyWords body.toList)
    (pages : List RenderedPage) :
    Opens frameWords (Markup.render (mainElement body pages)).toList := by
  refine opens_frameWords (Markup.opens_render (.element ⟨List.mem_cons_self, ?_⟩ ?_))
  · have page : '<' ∉ "data-page".toList := by decide
    rw [List.forall_mem_cons, List.forall_mem_map]
    exact ⟨⟨by decide, _, rfl⟩, fun p _ => ⟨page, _, rfl⟩⟩
  · rw [Tree.raws, List.forall_mem_map]
    intro f hf
    rw [List.mem_singleton.1 (List.mem_of_mem_filter hf)]
    exact .raw hb

theorem count_assemble {body : String} (hb : Opens Markup.bodyWords body.toList)
    (pages : List RenderedPage) :
    ∀ mark ∈ frameMarks true, countIn (assemble o body pages) mark.1 = mark.2 := by
  refine Template.count_fill Asset.frames_shell
    (List.forall_mem_append.2 ⟨harmless_frameValues o _, ?_⟩)
  exact List.forall_mem_cons.2 ⟨⟨_, rfl, opens_mainElement hb pages⟩,
    List.forall_mem_singleton.2 ⟨_, rfl, opens_comparison (DocumentScript.opens_text ..)⟩⟩

theorem opens_output (g : Graph) : Opens Markup.bodyWords (walk g .document).output.toList := by
  rw [output_eq_fragment]
  exact Markup.opens_of_accepted (accepted_fragment 1 g.unfold)

theorem opens_brokenPage (reason : String) :
    Opens Markup.bodyWords (brokenPage reason).toList := by
  have known : "p" ∈ Markup.bodyNames := by decide
  have line (classes : List String) (text : String) :
      Markup.BodyTree (.element ⟨"p", false, classes, [], []⟩ [.text text]) :=
    .element ⟨known, List.forall_mem_nil _⟩ (List.forall_mem_singleton.2 (.text text))
  refine Markup.opens_render (.element ⟨by decide, ?_⟩ ?_)
  · exact List.forall_mem_singleton.2 ⟨by decide, _, rfl⟩
  · exact List.forall_mem_cons.2 ⟨line _ _, List.forall_mem_singleton.2 (line _ _)⟩

theorem opens_pageBody (p : Page) : Opens Markup.bodyWords (pageBody p).toList := by
  rw [pageBody]
  cases p.readGraph with
  | ok g => exact opens_output g
  | error e => exact opens_brokenPage e.message

end Document

/-- A document has the elements of its frame once each, and no comment: one script with something to
show, none without, whatever the names, ids, titles, bodies, reasons and properties are. -/
theorem document_frame (o : DocumentOptions) :
    (∀ text : String, ∀ mark ∈ frameMarks (Graph.ofText text).isOk,
      countIn (Document.ofText o text) mark.1 = mark.2) ∧
    ∀ pages : List Page, ∀ mark ∈ frameMarks (!pages.isEmpty),
      countIn (Document.ofPages o pages) mark.1 = mark.2 := by
  constructor
  · intro text
    rw [Document.ofText]
    cases Graph.ofText text with
    | ok g => exact Document.count_assemble o (Document.opens_output g) []
    | error e => exact Document.count_placeholder o e.message
  · intro pages
    rw [Document.ofPages]
    cases pages with
    | nil => exact Document.count_placeholder o _
    | cons p pages =>
      exact Document.count_assemble o (Document.opens_pageBody p) _

end MiniApp

import MiniApp.Proofs.Component.Handler
import MiniApp.Proofs.Markup.Vocabulary

set_option autoImplicit false

namespace MiniApp.Markup

open Scanner

theorem styleText_eq (styles : List (String × String)) :
    styleText styles = String.join ((styleAttr styles).map attrText) := by
  rw [styleText, styleAttr]
  split <;> simp [attrText, String.join]

theorem classText_eq (classes : List String) :
    classText classes = String.join ((classAttr classes).map attrText) := by
  rw [classText, classAttr]
  split <;> simp [attrText, String.join]

theorem opening_eq (h : Head) :
    opening h = "<" ++ h.name ++ String.join ((attributes h).map attrText) := by
  rw [opening, classText_eq, styleText_eq, attributes, List.map_append, List.map_append,
    String.join_append, String.join_append]
  simp only [String.append_assoc]

structure Completes (m : Mode) (tag : StartTag) : Prop where
  close : step m '>' = some (.text, [tag.tag])
  next : step m ' ' = some (.attrName tag [], [])

theorem completes_tagName (name : List Char) :
    Completes (.tagName name) ⟨String.ofList name, []⟩ := ⟨rfl, rfl⟩

theorem completes_valueEnd (tag : StartTag) : Completes (.valueEnd tag) tag := ⟨rfl, rfl⟩

theorem completes_attrName (tag : StartTag) {name : List Char} (h : name ≠ []) :
    Completes (.attrName tag name) (tag.add name none) := by
  constructor
  · rw [step, if_neg (by decide), if_neg h]
    rfl
  · rw [step, if_neg (by decide), if_neg h]
    rfl

section Attributes

theorem SafeAttr.isCode {name code : String} (safe : SafeAttr (name, .script code)) :
    IsCode code := by
  rcases safe with h | ⟨action, code', hcode, heq⟩
  · exact absurd h Bool.false_ne_true
  · cases heq
    exact isCode_handler (by decide) hcode

theorem scan_blank_name {m : Mode} {tag : StartTag} (h : Completes m tag) {name : String}
    (hname : name.toList.all isNameChar = true) :
    scan step m (' ' :: name.toList) = some (.attrName tag name.toList, []) := by
  refine scan_led (Mode.attrName tag) (fun c gathered hc => ?_) h.next _ hname
  rw [step, if_pos hc]

theorem scan_attrValue {m : Mode} {tag : StartTag} (h : Completes m tag) {name : String}
    (hname : name.toList ≠ [] ∧ name.toList.all isNameChar = true) (f : Char → List Char)
    (cs : List Char) (hf : ∀ c ∈ cs, ∀ value,
      scan step (.value tag name.toList value) (f c) =
        some (.value tag name.toList (value ++ [c]), [])) :
    scan step m (' ' :: name.toList ++ '=' :: '"' :: (cs.flatMap f ++ ['"'])) =
      some (.valueEnd (tag.add name.toList (some cs)), []) := by
  refine scan_append (scan_blank_name h hname.2) ?_
  have equals : step (.attrName tag name.toList) '=' = some (.valueStart tag name.toList, []) := by
    rw [step, if_neg (by decide), if_neg hname.1, if_pos rfl]
  rw [scan_quiet equals]
  exact scan_quoted tag name.toList cs hf

def StartTag.push (t : StartTag) (a : String × Option String) : StartTag :=
  { t with attrs := t.attrs ++ [a] }

theorem add_toList (t : StartTag) (name : String) (value : Option String) :
    t.add name.toList (value.map String.toList) = t.push (name, value) := by
  cases value <;> simp [StartTag.add, StartTag.push]

theorem scan_attrText {m : Mode} {tag : StartTag} (h : Completes m tag) {a : String × Attr}
    (safe : SafeAttr a) :
    ∃ m', scan step m (attrText a).toList = some (m', []) ∧
      Completes m' (tag.push (a.1, a.2.value)) := by
  have hname := all_isNameChar_attrNames a.1 (allowedAttr_of_safe safe).1
  rw [← add_toList]
  obtain ⟨name, value | _ | code⟩ := a
  · refine ⟨_, ?_, completes_valueEnd _⟩
    have scanned := scan_attrValue h hname Escape.attributeChar value.toList
      fun c _ v => scan_attributeChar tag name.toList v c
    simpa [attrText, Attr.value, Escape.attributeValue, Escape.toList_each] using scanned
  · refine ⟨_, ?_, completes_attrName tag hname.1⟩
    simpa [attrText] using scan_blank_name h hname.2
  · refine ⟨_, ?_, completes_valueEnd _⟩
    have scanned := scan_attrValue h hname codeChar code.toList
      fun c hc v => scan_codeChar tag name.toList v (safe.isCode c hc)
    simpa [attrText, Attr.value, Escape.toList_each] using scanned

theorem scan_attrTexts {m : Mode} {tag : StartTag} (h : Completes m tag)
    {attrs : List (String × Attr)} (safe : ∀ a ∈ attrs, SafeAttr a) :
    ∃ m', scan step m (attrs.flatMap fun a => (attrText a).toList) = some (m', []) ∧
      Completes m' { tag with attrs := tag.attrs ++ attrs.map fun a => (a.1, a.2.value) } := by
  induction attrs generalizing m tag with
  | nil => exact ⟨m, rfl, by simpa using h⟩
  | cons a attrs ih =>
    rw [List.forall_mem_cons] at safe
    obtain ⟨m₁, first, h₁⟩ := scan_attrText h safe.1
    obtain ⟨m₂, rest, h₂⟩ := ih h₁ safe.2
    exact ⟨m₂, scan_append first rest, by simpa [StartTag.push] using h₂⟩

end Attributes

section Tags

variable {h : Head} (legible : Legible h)
include legible

theorem scan_opening :
    scan step .text (opening h ++ ">").toList = some (.text, [startTag h]) := by
  have first (c : Char) (hc : isNameChar c = true) :
      step .tagStart c = some (.tagName [c], []) := by
    rw [step, if_neg, if_pos hc]
    rintro rfl
    exact absurd hc (by decide)
  have name := scan_begun Mode.tagName (fun c gathered hc => by rw [step, if_pos hc]) first
    legible.name.1 legible.name.2
  have named : Completes (.tagName h.name.toList) ⟨h.name, []⟩ := by
    have done := completes_tagName h.name.toList
    rwa [String.ofList_toList] at done
  obtain ⟨m, attrs, done⟩ :=
    scan_attrTexts named fun a ha => safeAttr_of_mem_attributes legible.attrs ha
  have finish : scan step m ['>'] = some (.text, [startTag h]) := scan_cons done.close rfl
  have written : (opening h ++ ">").toList = '<' ::
      (h.name.toList ++ ((attributes h).flatMap fun a => (attrText a).toList) ++ ['>']) := by
    simp [opening_eq, List.flatMap_map]
  rw [written, scan_quiet rfl]
  exact scan_append (scan_append name attrs) finish

theorem scan_closing :
    scan step .text (Tree.closing h).toList = some (.text, [.closing h.name]) := by
  have name : scan step .tagStart ('/' :: h.name.toList) = some (.closingName h.name.toList, []) :=
    scan_led Mode.closingName (fun c gathered hc => by rw [step, if_pos hc]) rfl _ legible.name.2
  have last : step (.closingName h.name.toList) '>' = some (.text, [.closing h.name]) := by
    rw [step, if_neg (by decide), if_pos ⟨rfl, legible.name.1⟩, String.ofList_toList]
  have written : (Tree.closing h).toList = '<' :: ('/' :: h.name.toList ++ ['>']) := by
    simp [Tree.closing]
  rw [written, scan_quiet rfl]
  exact scan_append name (scan_cons last rfl)

end Tags

end MiniApp.Markup

import MiniApp.Proofs.Jsx.Escaped
import MiniApp.Proofs.Jsx.Vocabulary

set_option autoImplicit false

namespace MiniApp.Jsx

open Scanner

theorem propText_of_hasBreak {value : String} (h : hasBreak value = true) (name : String) :
    propText (name, .text value) = " " ++ name ++ "=" ++ braced (Escape.literal value) := by
  rw [propText, ← hasBreak, if_pos h]

theorem propText_of_not_hasBreak {value : String} (h : hasBreak value = false) (name : String) :
    propText (name, .text value) = " " ++ name ++ "=\"" ++ Escape.jsx value ++ "\"" := by
  rw [propText, ← hasBreak, h, if_neg Bool.false_ne_true]

theorem styleText_eq (styles : List (String × Style)) :
    styleText styles = String.join ((styleAttr styles).map propText) := by
  rw [styleText, styleAttr]
  cases styles with
  | nil => rfl
  | cons s styles =>
    have fields (ss : List (String × Style)) :
        Script.renderFields (ss.map fun s => (s.1, s.2.script)) =
          ss.map fun s => s.1 ++ ": " ++ s.2.render := by
      rw [Script.renderFields_eq_map, List.map_map]
      refine List.map_congr_left fun s _ => ?_
      cases s with
      | mk key value => cases value <;> simp [Style.script, Style.render, Script.render]
    have opens : "\x7b " = "\x7b" ++ " " := by decide
    have closes : " \x7d" = " " ++ "\x7d" := by decide
    have record : (styleScript (s :: styles)).render =
        braced (" " ++ ", ".intercalate ((s :: styles).map fun s => s.1 ++ ": " ++ s.2.render) ++
          " ") := by
      rw [← fields, styleScript, List.map_cons, Script.render]
      · simp only [braced, opens, closes, String.append_assoc]
      · simp
    simp only [List.isEmpty_cons, Bool.false_eq_true, if_false, record]
    simp [propText, String.join]

theorem classText_eq {h : Head} (safe : SafeHead h) :
    classText h.classes = String.join ((classAttr h.classes).map propText) := by
  rw [classText, classAttr]
  split
  · rfl
  · rw [List.map_singleton, propText_of_not_hasBreak safe.hasBreak_classes]
    simp [String.join]

theorem opening_eq {h : Head} (safe : SafeHead h) :
    opening h = "<" ++ h.name ++ String.join ((attributes h).map propText) := by
  rw [opening, classText_eq safe, styleText_eq, attributes, List.map_append, List.map_append,
    String.join_append, String.join_append]
  simp only [String.append_assoc]

/-- Behind a name, a value or a flag: a tag may end there, or go on. -/
structure Completes (m : Mode) (tag : StartTag) : Prop where
  close : step m '>' = some (.text, [.opening tag.name tag.props])
  next : step m ' ' = some (.propName tag [], [])

theorem completes_tagName (name : List Char) :
    Completes (.tagName name) ⟨String.ofList name, []⟩ := ⟨rfl, rfl⟩

theorem completes_valueEnd (tag : StartTag) : Completes (.valueEnd tag) tag := ⟨rfl, rfl⟩

theorem completes_propName (tag : StartTag) {name : List Char} (h : name ≠ []) :
    Completes (.propName tag name) (tag.add name .flag) := by
  constructor
  · rw [step, if_neg (by decide), if_neg h]
    rfl
  · rw [step, if_neg (by decide), if_neg h]
    rfl

section Props

theorem scan_blank_name {m : Mode} {tag : StartTag} (h : Completes m tag) {name : String}
    (hname : name.toList.all isNameChar = true) :
    scan step m (' ' :: name.toList) = some (.propName tag name.toList, []) := by
  refine scan_led (Mode.propName tag) (fun c gathered hc => ?_) h.next _ hname
  rw [step, if_pos hc]

theorem scan_valued {m : Mode} {tag : StartTag} (h : Completes m tag) {name : String}
    (hname : name.toList ≠ [] ∧ name.toList.all isNameChar = true) {cs : List Char} {value : Value}
    (hcs : scan step (.valueStart tag name.toList) cs =
      some (.valueEnd (tag.add name.toList value), [])) :
    scan step m (' ' :: name.toList ++ '=' :: cs) =
      some (.valueEnd (tag.add name.toList value), []) := by
  refine scan_append (scan_blank_name h hname.2) ?_
  have equals : step (.propName tag name.toList) '=' = some (.valueStart tag name.toList, []) := by
    rw [step, if_neg (by decide), if_neg hname.1, if_pos rfl]
  rwa [scan_quiet equals]

theorem scan_propText {m : Mode} {tag : StartTag} (h : Completes m tag) {a : String × Attr}
    (safe : SafeAttr a) :
    ∃ m', scan step m (propText a).toList = some (m', []) ∧
      Completes m' (tag.add a.1.toList a.2.value) := by
  have hname := all_isNameChar_propNames a.1 (allowedValue_of_safe safe).mem_propNames
  have braces {code : String} {tokens : List Code.Token} (hc : Code.Reads code tokens) :
      scan step m (" " ++ a.1 ++ "=" ++ braced code).toList =
        some (.valueEnd (tag.add a.1.toList (.expr tokens)), []) := by
    simpa using scan_valued h hname (scan_braced tag a.1.toList hc)
  obtain ⟨name, value | _ | code⟩ := a
  · rw [Attr.value]
    cases hb : hasBreak value with
    | true =>
      refine ⟨_, ?_, completes_valueEnd _⟩
      rw [propText_of_hasBreak hb, if_pos rfl]
      exact braces (Code.reads_literal value)
    | false =>
      refine ⟨_, ?_, completes_valueEnd _⟩
      have unbroken : ∀ c ∈ value.toList, ¬ (c = '\n' ∨ c = '\r') := by
        simpa [hasBreak] using hb
      have scanned := scan_valued h hname (scan_string tag name.toList unbroken)
      rw [String.ofList_toList] at scanned
      rw [propText_of_not_hasBreak hb, if_neg Bool.false_ne_true]
      simpa [Escape.jsx, Escape.toList_each] using scanned
  · refine ⟨_, ?_, completes_propName tag hname.1⟩
    simpa [propText] using scan_blank_name h hname.2
  · obtain ⟨tokens, reads, -⟩ := safe.reads
    refine ⟨_, ?_, completes_valueEnd _⟩
    rw [Attr.value, reads.read?_eq, Option.getD_some]
    exact braces reads

theorem scan_propTexts {m : Mode} {tag : StartTag} (h : Completes m tag)
    {attrs : List (String × Attr)} (safe : ∀ a ∈ attrs, SafeAttr a) :
    ∃ m', scan step m (attrs.flatMap fun a => (propText a).toList) = some (m', []) ∧
      Completes m' { tag with props := tag.props ++ attrs.map fun a => (a.1, a.2.value) } := by
  induction attrs generalizing m tag with
  | nil => exact ⟨m, rfl, by simpa using h⟩
  | cons a attrs ih =>
    rw [List.forall_mem_cons] at safe
    obtain ⟨m₁, first, h₁⟩ := scan_propText h safe.1
    obtain ⟨m₂, rest, h₂⟩ := ih h₁ safe.2
    exact ⟨m₂, scan_append first rest, by simpa [StartTag.add] using h₂⟩

end Props

section Tags

variable {h : Head} (safe : SafeHead h)
include safe

theorem scan_start :
    ∃ m, scan step .text (opening h).toList = some (m, []) ∧ Completes m ⟨h.name, props h⟩ := by
  obtain ⟨shows, chars⟩ := all_isNameChar_tagNames h.name safe.name
  have first (c : Char) (hc : isNameChar c = true) :
      step .tagStart c = some (.tagName [c], []) := by
    rw [step, if_neg, if_pos hc]
    rintro rfl
    exact absurd hc (by decide)
  have name := scan_begun Mode.tagName (fun c gathered hc => by rw [step, if_pos hc]) first
    shows chars
  have named : Completes (.tagName h.name.toList) ⟨h.name, []⟩ := by
    have done := completes_tagName h.name.toList
    rwa [String.ofList_toList] at done
  obtain ⟨m, attrs, done⟩ :=
    scan_propTexts named fun a ha => safeAttr_of_mem_attributes safe ha
  have written : (opening h).toList = '<' ::
      (h.name.toList ++ (attributes h).flatMap fun a => (propText a).toList) := by
    simp [opening_eq safe, List.flatMap_map]
  refine ⟨m, ?_, done⟩
  rw [written, scan_quiet rfl]
  exact scan_append name attrs

theorem scan_opening :
    scan step .text (opening h ++ ">").toList = some (.text, [.opening h.name (props h)]) := by
  obtain ⟨m, start, done⟩ := scan_start safe
  have ends : scan step m ['>'] = some (.text, [.opening h.name (props h)]) :=
    scan_cons done.close rfl
  rw [String.toList_append]
  exact scan_append start ends

theorem scan_childless :
    scan step .text (childless h).toList = some (.text, [.selfClosing h.name (props h)]) := by
  obtain ⟨m, start, done⟩ := scan_start safe
  have ends : scan step m [' ', '/', '>'] = some (.text, [.selfClosing h.name (props h)]) := by
    rw [scan_quiet done.next]
    rfl
  rw [childless, String.toList_append]
  exact scan_append start ends

theorem scan_closing :
    scan step .text (Tree.closing h).toList = some (.text, [.closing h.name]) := by
  obtain ⟨shows, chars⟩ := all_isNameChar_tagNames h.name safe.name
  have name : scan step .tagStart ('/' :: h.name.toList) = some (.closingName h.name.toList, []) :=
    scan_led Mode.closingName (fun c gathered hc => by rw [step, if_pos hc]) rfl _ chars
  have last : step (.closingName h.name.toList) '>' = some (.text, [.closing h.name]) := by
    rw [step, if_neg (by decide), if_pos ⟨rfl, shows⟩, String.ofList_toList]
  have written : (Tree.closing h).toList = '<' :: ('/' :: h.name.toList ++ ['>']) := by
    simp [Tree.closing]
  rw [written, scan_quiet rfl]
  exact scan_append name (scan_cons last rfl)

end Tags

end MiniApp.Jsx

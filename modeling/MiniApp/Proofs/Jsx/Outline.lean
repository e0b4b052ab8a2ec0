import Mathlib.Data.List.Forall2
import MiniApp.Proofs.Code.Objects
import MiniApp.Proofs.Jsx.StartTag
import MiniApp.Proofs.Parse.Transcript

set_option autoImplicit false

namespace MiniApp.Jsx

open Code (chars separated)
open Code.Literal (Unquoted)
open Parse (PlainName ReadsAttr ReadsInValue Start Takes classWords?)

def Attr.isExpr : Attr → Bool
  | .expr _ => true
  | _ => false

/-- Names are plain, and neither classes nor styles nor line breaks are written another way. Props
are strings and flags. -/
structure PlainHead (h : Head) : Prop where
  name : PlainName h.name
  other : h.name ≠ "br"
  attrs : ∀ a ∈ h.attrs, PlainName a.1 ∧ a.1 ≠ "className" ∧ a.1 ≠ "style"
  values : ∀ a ∈ h.attrs, a.2.isExpr = false
  styles : ∀ s ∈ h.styles, Unquoted s.1

instance (h : Head) : Decidable (PlainHead h) :=
  decidable_of_iff (PlainName h.name ∧ h.name ≠ "br" ∧
      (∀ a ∈ h.attrs, PlainName a.1 ∧ a.1 ≠ "className" ∧ a.1 ≠ "style") ∧
      (∀ a ∈ h.attrs, a.2.isExpr = false) ∧ ∀ s ∈ h.styles, Unquoted s.1)
    ⟨fun h => ⟨h.1, h.2.1, h.2.2.1, h.2.2.2.1, h.2.2.2.2⟩,
      fun h => ⟨h.name, h.other, h.attrs, h.values, h.styles⟩⟩

def Attr.string? : Attr → Option String
  | .text value => some value
  | .flag | .expr _ => none

def Style.literal : Style → Code.Literal
  | .number d => .word (Numeral.text d)
  | .text s => .text s

def start (h : Head) : Start (List (String × Code.Literal)) :=
  ⟨h.name, classWords? h.classes, h.attrs.map fun a => (a.1, a.2.string?),
    h.styles.map fun s => (s.1, s.2.literal)⟩

def Attr.parsed : Attr → Parse.Value
  | .text value => if hasBreak value then .expr [.literal value] else .text value
  | .flag => .flag
  | .expr code => .expr ((Code.read? code).getD [])

def entries? : Option Parse.Value → Option (List (String × Code.Literal))
  | none => some []
  | some (.expr tokens) =>
    match Code.Literal.run .before tokens with
    | some (.behind entries) => some entries
    | _ => none
  | some _ => none

def interpret (tag : Parse.StartTag) : Option (Start (List (String × Code.Literal))) :=
  Parse.startOf? "className" entries? tag

def styleValue? (styles : List (String × Style)) : Option Parse.Value :=
  if styles.isEmpty then none else some (.expr (styleScript styles).tokens)

def language : Parse.Language Attr Style (Start (List (String × Code.Literal))) where
  dialect := dialect
  expressions := true
  tag h := ⟨h.name, Parse.attrsOf "className" (classWords? h.classes)
    (h.attrs.map fun a => (a.1, a.2.parsed)) (styleValue? h.styles)⟩
  start := start
  interpret := interpret

section Escaped

theorem keepsBreaks_jsxChar : Parse.KeepsBreaks Escape.jsxChar where
  newline := rfl
  carriageReturn := rfl
  other c newline carriageReturn := by
    unfold Escape.jsxChar
    split
    iterate 2 decide
    exact Parse.keepsBreaks_markupChar.other c newline carriageReturn

theorem takes_jsxChar (c : Char) : Takes true (Escape.jsxChar c) [.char c] := by
  unfold Escape.jsxChar
  split
  iterate 2 rfl
  · next opens closes => exact Parse.takes_markupChar fun _ => ⟨opens, closes⟩

theorem readsInValue_jsxChar (c : Char) : ReadsInValue true (Escape.jsxChar c) c := by
  unfold Escape.jsxChar
  split
  iterate 2 exact fun _ _ _ => rfl
  · exact Parse.readsInValue_markupChar c

end Escaped

section Styles

theorem reads_style (s : Style) : Code.Literal.ReadsValue s.script.tokens s.literal := by
  cases s with
  | number d =>
    rw [Style.script, Script.tokens]
    exact Code.Literal.readsValue_word (Code.Literal.unquoted_numeral d)
  | text s =>
    rw [Style.script, Script.tokens]
    exact Code.Literal.readsValue_text s

theorem reads_styles {styles : List (String × Style)} (keys : ∀ s ∈ styles, Unquoted s.1) :
    List.Forall₂ Code.Literal.ReadsEntry
      (Script.tokensOfFields (styles.map fun s => (s.1, s.2.script)))
      (styles.map fun s => (s.1, s.2.literal)) := by
  induction styles with
  | nil => exact .nil
  | cons s styles ih =>
    rw [List.forall_mem_cons] at keys
    exact .cons (Code.Literal.readsEntry_name keys.1 (reads_style s.2)) (ih keys.2)

theorem entries?_styleValue {styles : List (String × Style)} (keys : ∀ s ∈ styles, Unquoted s.1) :
    entries? (styleValue? styles) = some (styles.map fun s => (s.1, s.2.literal)) := by
  cases styles with
  | nil => rfl
  | cons s styles =>
    have read := Code.Literal.run_object (reads_styles keys) (List.cons_ne_nil _ _)
    have written : (styleScript (s :: styles)).tokens = chars "\x7b " ++
        separated (Script.tokensOfFields ((s :: styles).map fun s => (s.1, s.2.script))) ++
          chars " \x7d" := by
      rw [styleScript, List.map_cons, Script.tokens]
      simp
    change entries? (some (.expr (styleScript (s :: styles)).tokens)) = _
    rw [written, entries?]
    simp only [read]

end Styles

section Heads

theorem readsAttr_propText {a : String × Attr} (name : PlainName a.1)
    (value : a.2.isExpr = false) :
    ReadsAttr true (propText a).toList (a.1, a.2.parsed) := by
  obtain ⟨name', value' | _ | code⟩ := a
  · cases broken : hasBreak value' with
    | true =>
      have read := Parse.readsAttr_braced name (Code.reads_literal value')
      rw [propText_of_hasBreak broken]
      simpa [Attr.parsed, broken, braced] using read
    | false =>
      have read := Parse.readsAttr_quoted name readsInValue_jsxChar value'
      rw [propText_of_not_hasBreak broken]
      simpa [Attr.parsed, broken, Escape.jsx, Escape.toList_each] using read
  · simpa [propText, Attr.parsed] using Parse.readsAttr_flag name
  · exact absurd value.symm Bool.false_ne_true

def ReadsAttrs (s : String) (attrs : List (String × Parse.Value)) : Prop :=
  ∃ parts, s.toList = parts.flatten ∧ List.Forall₂ (ReadsAttr true) parts attrs

theorem ReadsAttrs.append {s t : String} {attrs others : List (String × Parse.Value)}
    (hs : ReadsAttrs s attrs) (ht : ReadsAttrs t others) :
    ReadsAttrs (s ++ t) (attrs ++ others) := by
  obtain ⟨parts, written, read⟩ := hs
  obtain ⟨parts', written', read'⟩ := ht
  refine ⟨parts ++ parts', ?_, List.rel_append read read'⟩
  rw [String.toList_append, written, written', List.flatten_append]

theorem readsAttrs_singleton {s : String} {a : String × Parse.Value}
    (h : ReadsAttr true s.toList a) : ReadsAttrs s [a] :=
  ⟨[s.toList], by simp, .cons h .nil⟩

theorem readsAttrs_classText (classes : List String) :
    ReadsAttrs (classText classes)
      ((classWords? classes).map fun words => ("className", .text words)).toList := by
  rw [classText, classWords?]
  split
  · exact ⟨[], rfl, .nil⟩
  · have name : PlainName "className" := by decide
    have read := Parse.readsAttr_quoted name readsInValue_jsxChar (" ".intercalate classes)
    refine readsAttrs_singleton ?_
    simpa [Escape.jsx, Escape.toList_each] using read

theorem readsAttrs_styleText {styles : List (String × Style)} (keys : ∀ s ∈ styles, Unquoted s.1) :
    ReadsAttrs (styleText styles)
      ((styleValue? styles).map fun value => ("style", value)).toList := by
  rw [styleText_eq, styleAttr, styleValue?]
  split
  · exact ⟨[], rfl, .nil⟩
  · have name : PlainName "style" := by decide
    have object := readable_styleScript fun s hs => (keys s hs).inert
    refine readsAttrs_singleton ?_
    simpa [propText, braced] using Parse.readsAttr_braced name object

theorem readsAttrs_attrs {attrs : List (String × Attr)} (names : ∀ a ∈ attrs, PlainName a.1)
    (values : ∀ a ∈ attrs, a.2.isExpr = false) :
    ReadsAttrs (String.join (attrs.map propText)) (attrs.map fun a => (a.1, a.2.parsed)) := by
  refine ⟨attrs.map fun a => (propText a).toList, ?_, ?_⟩
  · simp [List.flatMap_def, Function.comp_def]
  · rw [List.forall₂_map_left_iff, List.forall₂_map_right_iff, List.forall₂_same]
    exact fun a ha => readsAttr_propText (names a ha) (values a ha)

variable {h : Head} (plain : PlainHead h)
include plain

theorem opening_parts :
    ∃ parts, (opening h).toList = '<' :: (h.name.toList ++ parts.flatten) ∧
      List.Forall₂ (ReadsAttr true) parts (language.tag h).attrs := by
  obtain ⟨parts, written, read⟩ := ((readsAttrs_classText h.classes).append
    (readsAttrs_attrs (fun a ha => (plain.attrs a ha).1) plain.values)).append
      (readsAttrs_styleText plain.styles)
  refine ⟨parts, ?_, read⟩
  rw [← written, opening]
  simp

theorem interpret_tag : interpret (language.tag h) = some (start h) := by
  have own : ∀ a ∈ h.attrs.map fun a => (a.1, a.2.parsed),
      a.1 ≠ "className" ∧ a.1 ≠ "style" := by
    rw [List.forall_mem_map]
    exact fun a ha => (plain.attrs a ha).2
  have strings : ∀ a ∈ h.attrs, a.2.parsed.string? = some a.2.string? := by
    rintro ⟨name, value | _ | code⟩ ha
    · change (if hasBreak value = true then _ else _ : Parse.Value).string? = _
      split <;> rfl
    · rfl
    · exact absurd (plain.values _ ha).symm Bool.false_ne_true
  exact Parse.startOf?_attrsOf (by decide) h.name _ own (Parse.strings_of strings)
    (entries?_styleValue plain.styles)

end Heads

theorem language_lawful : language.Lawful PlainHead where
  name plain := plain.name
  other plain := plain.other
  tag _ := rfl
  opened {h} plain := by
    obtain ⟨parts, written, attrs⟩ := opening_parts plain
    have read := Parse.takes_opening plain.name attrs
    rw [← written] at read
    change Takes true (opening h ++ ">").toList _
    rwa [String.toList_append]
  childless {h} plain := by
    obtain ⟨parts, written, attrs⟩ := opening_parts plain
    have read := Parse.takes_selfClosing plain.name attrs
    rw [← written] at read
    change Takes true (childless h).toList _
    rwa [childless, String.toList_append]
  ends {h} _ := ⟨opening h ++ " /", by simp [language, dialect, childless, String.append_assoc]⟩
  words s := by
    have breaks : Takes true ['<', 'b', 'r', ' ', '/', '>'] [.selfClosing Parse.lineBreak] := rfl
    change Takes true (text s).toList _
    rw [text, String.toList_ofList, Escape.jsx, Escape.toList_each, Parse.map_shown]
    exact keepsBreaks_jsxChar.takes_shown (fun c _ => takes_jsxChar c) breaks s
  interpret plain := interpret_tag plain

/-- The JSX of a tree tells its outline. -/
theorem jsx_tells_outline {t : Jsx.Tree} (plain : t.Plain PlainHead) :
    Parse.readClosed? interpret (render t) = some (t.outline start) :=
  language_lawful.readClosed?_render rfl plain

def form : Jsx.Tree :=
  .element ⟨"form", false, ["wide", "left"], [], []⟩
    [.element ⟨"input", false, [], [("placeholder", .text "one\ntwo"),
        ("title", .text "\x7ba\x7d"), ("disabled", .flag)], []⟩ [],
      .element ⟨"button", false, [], [], [("fontSize", .number (.ofNat 16)),
        ("color", .text "'red'")]⟩ [.text "R&D\r\n'x'"]]

theorem jsx_tells_outline_form :
    Parse.readClosed? interpret (render form) =
      some [.element ⟨"form", some "wide left", [], []⟩
        [.element ⟨"input", none, [("placeholder", some "one\ntwo"), ("title", some "\x7ba\x7d"),
            ("disabled", none)], []⟩ [],
          .element ⟨"button", none, [], [("fontSize", .word "16"), ("color", .text "'red'")]⟩
            [.text "R&D\n'x'"]]] := by
  have plain : form.Plain PlainHead := by
    refine .block (by decide) rfl (List.cons_ne_nil _ _) ?_
    rw [List.forall_mem_cons, List.forall_mem_singleton]
    exact ⟨.leaf (by decide), .words (by decide) rfl _⟩
  have sixteen : Numeral.text (.ofNat 16) = "16" := by decide +kernel
  rw [← sixteen]
  exact jsx_tells_outline plain

end MiniApp.Jsx

import Mathlib.Data.List.Forall2
import MiniApp.Proofs.Markup.StartTag
import MiniApp.Proofs.Parse.Marking

set_option autoImplicit false

namespace MiniApp.Markup

open Parse (PlainName ReadsAttr ReadsInValue Start Takes classWords?)

/-- Names are plain, and neither classes nor styles nor line breaks are written another way. -/
structure PlainHead (h : Head) : Prop where
  name : PlainName h.name
  other : h.name ≠ "br"
  attrs : ∀ a ∈ h.attrs, PlainName a.1 ∧ a.1 ≠ "class" ∧ a.1 ≠ "style"

instance (h : Head) : Decidable (PlainHead h) :=
  decidable_of_iff (PlainName h.name ∧ h.name ≠ "br" ∧
      ∀ a ∈ h.attrs, PlainName a.1 ∧ a.1 ≠ "class" ∧ a.1 ≠ "style")
    ⟨fun h => ⟨h.1, h.2.1, h.2.2⟩, fun h => ⟨h.name, h.other, h.attrs⟩⟩

def declarations? (styles : List (String × String)) : Option String :=
  if styles.isEmpty then none
  else some (";".intercalate (styles.map fun s => s.1 ++ ":" ++ s.2))

def start (h : Head) : Start (Option String) :=
  ⟨h.name, classWords? h.classes, h.attrs.map fun a => (a.1, a.2.value), declarations? h.styles⟩

def Attr.parsed : Attr → Parse.Value
  | .text value => .text value
  | .flag => .flag
  | .script code => .text code

def interpret (tag : Parse.StartTag) : Option (Start (Option String)) :=
  Parse.startOf? "class" (fun
    | none => some none
    | some value => value.string?) tag

def language : Parse.Language Attr String (Start (Option String)) where
  dialect := dialect
  expressions := false
  tag h := ⟨h.name, (attributes h).map fun a => (a.1, a.2.parsed)⟩
  start := start
  interpret := interpret

section Escaped

theorem readsInValue_attributeChar (c : Char) :
    ReadsInValue false (Escape.attributeChar c) c := by
  unfold Escape.attributeChar
  split
  iterate 3 exact fun _ _ _ => rfl
  · exact Parse.readsInValue_markupChar c

theorem readsInValue_codeChar (c : Char) : ReadsInValue false (codeChar c) c := by
  unfold codeChar
  split
  iterate 2 exact fun _ _ _ => rfl
  · next amp quot => exact Parse.readsInValue_self quot amp

end Escaped

section Heads

theorem start_attrs (h : Head) :
    (attributes h).map (fun a => (a.1, a.2.parsed)) =
      Parse.attrsOf "class" (classWords? h.classes) (h.attrs.map fun a => (a.1, a.2.parsed))
        ((declarations? h.styles).map .text) := by
  rw [attributes, classAttr, styleAttr, classWords?, declarations?, Parse.attrsOf, List.map_append,
    List.map_append]
  cases h.classes <;> cases h.styles <;> rfl

variable {h : Head} (plain : PlainHead h)
include plain

theorem plainName_of_mem_attributes {a : String × Attr} (ha : a ∈ attributes h) :
    PlainName a.1 := by
  have fixed : PlainName "class" ∧ PlainName "style" := by decide
  rw [attributes, List.mem_append, List.mem_append] at ha
  rcases ha with (ha | ha) | ha
  · rw [classAttr] at ha
    split at ha
    · exact absurd ha List.not_mem_nil
    · cases List.mem_singleton.1 ha
      exact fixed.1
  · exact (plain.attrs a ha).1
  · rw [styleAttr] at ha
    split at ha
    · exact absurd ha List.not_mem_nil
    · cases List.mem_singleton.1 ha
      exact fixed.2

omit plain in
theorem readsAttr_attrText {a : String × Attr} (name : PlainName a.1) :
    ReadsAttr false (attrText a).toList (a.1, a.2.parsed) := by
  obtain ⟨name', value | _ | code⟩ := a
  · have read := Parse.readsAttr_quoted name readsInValue_attributeChar value
    simpa [attrText, Attr.parsed, Escape.attributeValue, Escape.toList_each] using read
  · simpa [attrText, Attr.parsed] using Parse.readsAttr_flag name
  · have read := Parse.readsAttr_quoted name readsInValue_codeChar code
    simpa [attrText, Attr.parsed, Escape.toList_each] using read

theorem takes_opening :
    Takes false (opening h ++ ">").toList [.opening (language.tag h)] := by
  have attrs : List.Forall₂ (ReadsAttr false) ((attributes h).map fun a => (attrText a).toList)
      ((attributes h).map fun a => (a.1, a.2.parsed)) := by
    rw [List.forall₂_map_left_iff, List.forall₂_map_right_iff, List.forall₂_same]
    exact fun a ha => readsAttr_attrText (plainName_of_mem_attributes plain ha)
  have written : (opening h ++ ">").toList =
      '<' :: (h.name.toList ++ ((attributes h).map fun a => (attrText a).toList).flatten) ++
        ['>'] := by
    simp [opening_eq, List.flatMap_def, Function.comp_def]
  rw [written]
  exact Parse.takes_opening plain.name attrs

theorem interpret_tag : interpret (language.tag h) = some (start h) := by
  have own : ∀ a ∈ h.attrs.map fun a => (a.1, a.2.parsed), a.1 ≠ "class" ∧ a.1 ≠ "style" := by
    rw [List.forall_mem_map]
    exact fun a ha => (plain.attrs a ha).2
  have strings : ∀ a ∈ h.attrs, a.2.parsed.string? = some a.2.value := by
    rintro ⟨_, _ | _ | _⟩ _ <;> rfl
  change Parse.startOf? _ _ ⟨h.name, _⟩ = _
  rw [start_attrs]
  refine Parse.startOf?_attrsOf (by decide) h.name _ own (Parse.strings_of strings) ?_
  cases declarations? h.styles <;> rfl

end Heads

theorem language_lawful : language.Lawful PlainHead where
  name plain := plain.name
  other plain := plain.other
  tag _ := rfl
  opened plain := takes_opening plain
  childless {h} plain := by
    change Takes false (childless h).toList _
    have opened := takes_opening plain
    have closed : Takes false _ [.closing h.name] := Parse.takes_closing plain.name
    rw [childless, Parse.Language.leaf]
    change Takes false _ ((if h.isVoid = true then _ else _ : List Parse.Piece).map _)
    split
    · exact opened
    · rw [String.toList_append]
      exact opened.append (by simpa [Tree.closing] using closed)
  ends {h} _ := by
    change ∃ line, childless h = line ++ ">"
    rw [childless]
    split
    · exact ⟨_, rfl⟩
    · exact ⟨opening h ++ ">" ++ ("</" ++ h.name), by simp [Tree.closing, String.append_assoc]⟩
  words s := by
    have breaks : Takes false ['<', 'b', 'r', '>'] [.opening Parse.lineBreak] := rfl
    change Takes false (text s).toList _
    rw [text, String.toList_ofList, Escape.markup, Escape.toList_each, Parse.map_shown]
    refine Parse.keepsBreaks_markupChar.takes_shown (fun c _ => ?_) breaks s
    exact Parse.takes_markupChar fun on => absurd on Bool.false_ne_true
  interpret plain := interpret_tag plain

/-- The markup of a tree tells its outline. -/
theorem markup_tells_outline {t : Markup.Tree} (plain : t.Plain PlainHead) :
    Parse.readLaid? interpret (render t) = some (t.outline start) ∧
    (∀ names : List String, "br" ∈ names →
      (t.Plain fun h => h.name ∈ names ↔ h.isVoid = true) →
        Parse.readNamed? interpret names (render t) = some (t.outline start)) ∧
    ∀ u : Markup.Tree, u.Plain PlainHead → render u = render t →
      u.outline start = t.outline start := by
  have read {t : Markup.Tree} (plain : t.Plain PlainHead) :
      Parse.readLaid? interpret (render t) = some (t.outline start) :=
    language_lawful.readLaid?_render rfl plain
  refine ⟨read plain, fun names breaks named => ?_, fun u plain' same => ?_⟩
  · exact language_lawful.readNamed?_render rfl plain breaks named
  · have again := read plain'
    rw [same, read plain] at again
    exact (Option.some.inj again).symm

def figure : Markup.Tree :=
  .element ⟨"figure", false, ["wide", "left"], [], []⟩
    [.element ⟨"img", true, [], [("alt", .text "1 < 2\n"), ("hidden", .flag)],
        [("width", "1px"), ("height", "2px")]⟩ [],
      .element ⟨"p", false, [], [("onclick", .script "f(\"x\" < 'y' && z)")], []⟩
        [.text "R&D\r\n'x'"]]

theorem markup_tells_outline_figure :
    Parse.readLaid? interpret (render figure) =
        some [.element ⟨"figure", some "wide left", [], none⟩
          [.element ⟨"img", none, [("alt", some "1 < 2\n"), ("hidden", none)],
              some "width:1px;height:2px"⟩ [],
            .element ⟨"p", none, [("onclick", some "f(\"x\" < 'y' && z)")], none⟩
              [.text "R&D\n'x'"]]] ∧
      Parse.readNamed? interpret ["img", "br"] (render figure) =
        Parse.readLaid? interpret (render figure) := by
  have plain : figure.Plain PlainHead := by
    refine .block (by decide) rfl (List.cons_ne_nil _ _) ?_
    rw [List.forall_mem_cons, List.forall_mem_singleton]
    exact ⟨.leaf (by decide), .words (by decide) rfl _⟩
  have named : figure.Plain fun h => h.name ∈ ["img", "br"] ↔ h.isVoid = true := by
    refine .block (by decide) rfl (List.cons_ne_nil _ _) ?_
    rw [List.forall_mem_cons, List.forall_mem_singleton]
    exact ⟨.leaf (by decide), .words (by decide) rfl _⟩
  obtain ⟨laid, byName, -⟩ := markup_tells_outline plain
  exact ⟨laid, (byName _ (by decide) named).trans laid.symm⟩

end MiniApp.Markup

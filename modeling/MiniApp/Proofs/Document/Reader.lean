import MiniApp.Proofs.Document.Parts
import MiniApp.Proofs.Walk.Injection

set_option autoImplicit false

namespace MiniApp.Document

open Markup (Tag)
open Text (Opens)

def rawNames : List String := ["style", "script"]

inductive Mode where
  | declaration (rest : List Char)
  | markup (m : Markup.Mode)
  | raw (name : String)
  | rawBracket (name : String)
  | rawEnd (name : String) (letters : List Char)

def behind (m : Markup.Mode) : List Tag → Mode
  | [.opening name _] => if name ∈ rawNames then .raw name else .markup m
  | _ => .markup m

def step : Scanner.Step Mode Tag
  | .declaration [], _ => none
  | .declaration (d :: rest), c =>
    if c = d then some (if rest.isEmpty then .markup .text else .declaration rest, []) else none
  | .markup m, c => (Markup.step m c).map fun next => (behind next.1 next.2, next.2)
  | .raw name, c => if c = '<' then some (.rawBracket name, []) else some (.raw name, [])
  | .rawBracket name, c =>
    if c = '/' then some (.rawEnd name [], [])
    else if c = ' ' then some (.raw name, [])
    else none
  | .rawEnd name letters, c =>
    if Markup.isNameChar c then some (.rawEnd name (letters ++ [c]), [])
    else if c = '>' ∧ letters = name.toList then some (.markup .text, [.closing name])
    else none

def start : Mode := .declaration "<!DOCTYPE html>".toList

/-- The tags of a document that ends outside of them all. -/
def read? (s : String) : Option (List Tag) :=
  match Scanner.scan step start s.toList with
  | some (.markup .text, tags) => some tags
  | _ => none

example : read? "<!DOCTYPE html>\n<script>a < b</script>" =
    some [.opening "script" [], .closing "script"] := by rfl

example : read? "<!DOCTYPE html>\n<script>a</style></script>" = none := by rfl

section Parts

/-- No tag opens an element whose content is no markup. -/
def Plain (tags : List Tag) : Prop := ∀ name attrs, Tag.opening name attrs ∈ tags → name ∉ rawNames

theorem behind_of_plain {tags : List Tag} (plain : Plain tags) (m : Markup.Mode) :
    behind m tags = .markup m := by
  rw [behind.eq_def]
  split
  · next name attrs => exact if_neg (plain name attrs List.mem_cons_self)
  · rfl

theorem scan_markup {m m' : Markup.Mode} {cs : List Char} {tags : List Tag}
    (h : Scanner.scan Markup.step m cs = some (m', tags)) (plain : Plain tags) :
    Scanner.scan step (.markup m) cs = some (.markup m', tags) := by
  induction cs generalizing m tags with
  | nil =>
    cases h
    rfl
  | cons c cs ih =>
    obtain ⟨m₁, out, rest, hstep, hs, rfl⟩ := Scanner.scan_cons_inv h
    have first : Plain out := fun name attrs hn => plain name attrs (List.mem_append_left _ hn)
    have later : Plain rest := fun name attrs hn => plain name attrs (List.mem_append_right _ hn)
    have here : step (.markup m) c = some (.markup m₁, out) := by
      rw [step, hstep, Option.map_some, behind_of_plain first]
    exact Scanner.scan_cons here (ih hs later)

theorem scan_raw (name : String) {cs : List Char} (h : Opens comparison cs) :
    Scanner.scan step (.raw name) cs = some (.raw name, []) := by
  induction h with
  | nil => rfl
  | @cons c cs here _ ih =>
    by_cases bracket : c = '<'
    · obtain ⟨w, hw, prefixed⟩ := here bracket
      rw [List.mem_singleton.1 hw] at prefixed
      obtain ⟨rest, rfl⟩ := prefixed
      have blank : step (.raw name) ' ' = some (.raw name, []) := rfl
      have behind : step (.rawBracket name) ' ' = some (.raw name, []) := rfl
      rw [List.singleton_append, Scanner.scan_quiet blank] at ih
      rw [bracket, Scanner.scan_quiet rfl, List.singleton_append, Scanner.scan_quiet behind]
      exact ih
    · rw [Scanner.scan_quiet (by rw [step, if_neg bracket])]
      exact ih

end Parts

section Shell

def shellText (index : Nat) : List Char :=
  match Asset.shell.pieces[index]? with
  | some (.text s) => s.toList
  | _ => []

def titleTags (language theme : String) : List Tag := [
  .opening "html" [("lang", some language), ("data-theme", some theme)],
  .opening "head" [],
  .opening "meta" [("charset", some "utf-8")],
  .opening "meta" [("name", some "viewport"),
    ("content", some "width=device-width, initial-scale=1, viewport-fit=cover")],
  .opening "meta" [("name", some "generator"), ("content", some "miniforge")],
  .opening "title" []]

theorem scan_shell_start : Scanner.scan step start (shellText 0) =
    some (.markup (.value ⟨"html", []⟩ "lang".toList []), []) := by
  simp only [shellText, Asset.shell, start, List.getElem?_cons_zero, String.toList_append,
    Asset.toList_fileText, List.flatMap_cons, List.flatMap_nil]
  repeat rw [String.toList_ofList]
  rfl

theorem scan_shell_theme (language : List Char) : Scanner.scan step
    (.markup (.value ⟨"html", []⟩ "lang".toList language)) (shellText 2) =
      some (.markup (.value ⟨"html", [("lang", some (String.ofList language))]⟩
        "data-theme".toList []), []) := by
  simp only [shellText, Asset.shell, List.getElem?_cons_succ, List.getElem?_cons_zero]
  repeat rw [String.toList_ofList]
  rfl

set_option maxRecDepth 10000 in
theorem scan_shell_head (language : String) (theme : List Char) : Scanner.scan step
    (.markup (.value ⟨"html", [("lang", some language)]⟩ "data-theme".toList theme)) (shellText 4) =
      some (.markup .text, titleTags language (String.ofList theme)) := by
  simp only [shellText, Asset.shell, List.getElem?_cons_succ, List.getElem?_cons_zero,
    String.toList_append, Asset.toList_fileText, List.flatMap_cons, List.flatMap_nil]
  repeat rw [String.toList_ofList]
  rfl

theorem scan_shell_style : Scanner.scan step (.markup .text) (shellText 6) =
    some (.raw "style", [.closing "title", .opening "style" []]) := by
  simp only [shellText, Asset.shell, List.getElem?_cons_succ, List.getElem?_cons_zero,
    Asset.toList_fileText, List.flatMap_cons, List.flatMap_nil]
  repeat rw [String.toList_ofList]
  rfl

theorem scan_shell_body : Scanner.scan step (.raw "style") (shellText 8) =
    some (.markup .text, [.closing "style", .closing "head", .opening "body" []]) := by
  simp only [shellText, Asset.shell, List.getElem?_cons_succ, List.getElem?_cons_zero,
    Asset.toList_fileText, List.flatMap_cons, List.flatMap_nil]
  repeat rw [String.toList_ofList]
  rfl

set_option maxRecDepth 10000 in
theorem scan_shell_script : Scanner.scan step (.markup .text) (shellText 10) =
    some (.raw "script", [.opening "div" [("class", some "mf-toast-host"),
      ("id", some "mf-toasts"), ("aria-live", some "polite")], .closing "div",
      .opening "script" []]) := by
  simp only [shellText, Asset.shell, List.getElem?_cons_succ, List.getElem?_cons_zero,
    Asset.toList_fileText, List.flatMap_cons, List.flatMap_nil]
  repeat rw [String.toList_ofList]
  rfl

theorem scan_shell_end : Scanner.scan step (.raw "script") (shellText 12) =
    some (.markup .text, [.closing "script", .closing "body", .closing "html"]) := by
  simp only [shellText, Asset.shell, List.getElem?_cons_succ, List.getElem?_cons_zero,
    Asset.toList_fileText, List.flatMap_cons, List.flatMap_nil]
  repeat rw [String.toList_ofList]
  rfl

end Shell

section Values

def isPlainChar (c : Char) : Bool := c.isAlphanum || c == '-'

theorem step_value {c : Char} (h : isPlainChar c = true) (tag : Markup.StartTag)
    (name value : List Char) :
    step (.markup (.value tag name value)) c = some (.markup (.value tag name (value ++ [c])), []) := by
  have apart (d : Char) (hd : isPlainChar d = false) : c ≠ d := by
    rintro rfl
    exact absurd h (by rw [hd]; decide)
  have others : ¬ (c = '<' ∨ c = '\n' ∨ c = '\r') := by
    simp [apart '<' rfl, apart '\n' rfl, apart '\r' rfl]
  rw [step, Markup.step, if_neg (apart '"' rfl), if_neg (apart '&' rfl), if_neg others]
  rfl

theorem scan_plainValue (tag : Markup.StartTag) (name : List Char) {value : List Char}
    (plain : value.all isPlainChar = true) :
    Scanner.scan step (.markup (.value tag name [])) value =
      some (.markup (.value tag name value), []) :=
  Scanner.scan_word (fun v => Mode.markup (.value tag name v))
    (fun _ v hc => step_value hc tag name v) value plain []

theorem all_isPlainChar_languageTag (o : DocumentOptions) :
    o.languageTag.toList.all isPlainChar = true := by
  rw [DocumentOptions.languageTag]
  split
  · next tag =>
    rw [DocumentOptions.isLanguageTag, Bool.and_eq_true] at tag
    exact tag.2
  · decide

theorem all_isPlainChar_theme (isDark : Bool) : (Theme.name isDark).toList.all isPlainChar = true := by
  cases isDark <;> decide

theorem scan_title (title : String) :
    Scanner.scan step (.markup .text) (Escape.markup title).toList = some (.markup .text, []) := by
  have quiet : Scanner.scan Markup.step .text (Escape.markup title).toList = some (.text, []) := by
    rw [Escape.markup, Escape.toList_each]
    induction title.toList with
    | nil => rfl
    | cons c cs ih => exact Scanner.scan_append (Markup.scan_markupChar c) ih
  exact scan_markup quiet fun _ _ h => absurd h List.not_mem_nil

end Values

section Main

def mainTag (pages : List RenderedPage) : Tag :=
  .opening "main" (("id", some "mf-app") :: pages.head?.toList.map fun p => ("data-page", some p.id))

theorem read?_mainElement {body : String} {tags : List Tag} (h : Markup.read? body = some tags)
    (pages : List RenderedPage) :
    Markup.read? (Markup.render (mainElement body pages)) =
      some (mainTag pages :: (tags ++ [.closing "main"])) := by
  have legible : Markup.Legible
      ⟨"main", false, [], ("id", .text "mf-app") ::
        pages.head?.toList.map fun p => ("data-page", .text p.id), []⟩ := by
    have name : "main".toList ≠ [] ∧ "main".toList.all Markup.isNameChar = true := by decide
    exact ⟨name, List.forall_mem_cons.2 ⟨.inl rfl, List.forall_mem_map.2 fun p _ => .inl rfl⟩⟩
  have all : (mainElement body pages).All Markup.Legible
      fun f => Markup.reading.Takes f ((fun _ => tags) f) := by
    refine .element legible ?_
    rw [Tree.raws, List.forall_mem_map]
    intro f hf
    rw [List.mem_singleton.1 (List.mem_of_mem_filter hf)]
    exact .raw (Markup.read?_eq_some_iff.1 h)
  have below : Markup.tagsOfAll (fun _ => tags) (Tree.raws [body]) = tags := by
    by_cases empty : body = ""
    · subst empty
      exact Option.some.inj h
    · simp [Tree.raws, empty, Markup.tagsOfAll, Markup.tagsOf]
  have read : Markup.reading.tagsOf (fun _ => tags) (mainElement body pages) =
      mainTag pages :: (tags ++ [.closing "main"]) := by
    rw [← Markup.tagsOf_eq, mainElement, Markup.tagsOf, if_neg Bool.false_ne_true, below]
    simp [Markup.startTag, Markup.attributes, Markup.classAttr, Markup.styleAttr, Markup.Attr.value,
      mainTag]
  rw [← read]
  exact Markup.read?_eq_some_iff.2 (Markup.reading_legible.takes_render all)

theorem step_blank {c : Char} (h : Text.isBlank c = true) : Markup.step .text c = some (.text, []) := by
  have apart (d : Char) (hd : Text.isBlank d = false) : c ≠ d := by
    rintro rfl
    exact absurd h (by rw [hd]; decide)
  rw [Markup.step, if_neg (apart '<' rfl), if_neg (apart '>' rfl), if_neg (apart '&' rfl)]

end Main

section Document

theorem scan_expandAll {data : Fields} {p : Template.Piece} {ps : List Template.Piece}
    {m m' m'' : Mode} {tags more : List Tag}
    (hp : Scanner.scan step m (Template.expand data p).toList = some (m', tags))
    (hps : Scanner.scan step m' (Template.expandAll data ps).toList = some (m'', more)) :
    Scanner.scan step m (Template.expandAll data (p :: ps)).toList = some (m'', tags ++ more) := by
  rw [Template.expandAll, String.toList_append]
  exact Scanner.scan_append hp hps

def headTags (language theme : String) : List Tag :=
  titleTags language theme ++
    [.closing "title", .opening "style" [], .closing "style", .closing "head", .opening "body" []]

def footTags : List Tag := [
  .opening "div" [("class", some "mf-toast-host"), ("id", some "mf-toasts"),
    ("aria-live", some "polite")],
  .closing "div", .opening "script" [], .closing "script", .closing "body", .closing "html"]

def shellData (language theme title stylesheet main script : String) : Fields :=
  [("lang", .string language), ("theme", .string theme), ("title", .string (Escape.markup title)),
    ("stylesheet", .string stylesheet), ("main", .string main), ("script", .string script)]

theorem scan_shell {language theme stylesheet main script : String} {tags : List Tag} (title : String)
    (hlanguage : language.toList.all isPlainChar = true)
    (htheme : theme.toList.all isPlainChar = true)
    (hstyle : Opens comparison stylesheet.toList) (hscript : Opens comparison script.toList)
    (hmain : Markup.read? main = some tags) (plain : Plain tags) :
    Scanner.scan step start
      (Asset.shell.fill (shellData language theme title stylesheet main script)).toList =
        some (.markup .text, headTags language theme ++ (tags ++ footTags)) := by
  have first := scan_plainValue ⟨"html", []⟩ "lang".toList hlanguage
  have second := scan_shell_theme language.toList
  have third := scan_plainValue ⟨"html", [("lang", some language)]⟩ "data-theme".toList htheme
  have head := scan_shell_head language theme.toList
  rw [String.ofList_toList] at second head
  have style := scan_raw "style" (opens_indentBlock unbroken_comparison hstyle 4)
  have inner := scan_markup (Scanner.scan_indentBlock Markup.breaksIn_text (fun _ => step_blank)
    (Markup.read?_eq_some_iff.1 hmain) 2) plain
  have code := scan_raw "script" (opens_indentBlock unbroken_comparison hscript 4)
  have all : Scanner.scan step start (Template.expandAll
      (shellData language theme title stylesheet main script) Asset.shell.pieces).toList =
        some (.markup .text, _) :=
    scan_expandAll scan_shell_start <| scan_expandAll first <| scan_expandAll second <|
      scan_expandAll third <| scan_expandAll head <| scan_expandAll (scan_title title) <|
      scan_expandAll scan_shell_style <| scan_expandAll style <| scan_expandAll scan_shell_body <|
      scan_expandAll inner <| scan_expandAll scan_shell_script <| scan_expandAll code <|
      scan_expandAll scan_shell_end rfl
  rw [Template.fill, all]
  simp [headTags, footTags]

theorem assemble_eq (o : DocumentOptions) (body : String) (pages : List RenderedPage) :
    assemble o body pages = Asset.shell.fill (shellData o.languageTag (Theme.name o.darkMode)
      ((pages.head?.map RenderedPage.title).getD o.title) (Theme.stylesheet o.title o.darkMode)
      (Markup.render (mainElement body pages)) (DocumentScript.text o.title o.timeout pages)) := rfl

/-- A document around a body is read as the tags of its frame around those of the body. -/
theorem read?_assemble (o : DocumentOptions) {body : String} {tags : List Tag}
    (h : Markup.read? body = some tags) (plain : Plain tags) (pages : List RenderedPage) :
    read? (assemble o body pages) =
      some (headTags o.languageTag (Theme.name o.darkMode) ++
        (mainTag pages :: (tags ++ [.closing "main"]) ++ footTags)) := by
  have around : Plain (mainTag pages :: (tags ++ [.closing "main"])) := by
    intro name attrs hn
    rw [List.mem_cons, List.mem_append, List.mem_singleton] at hn
    rcases hn with own | inner | last
    · cases own
      decide
    · exact plain name attrs inner
    · cases last
  have all := scan_shell ((pages.head?.map RenderedPage.title).getD o.title)
    (all_isPlainChar_languageTag o) (all_isPlainChar_theme o.darkMode)
    (Theme.opens_stylesheet o.title o.darkMode)
    (DocumentScript.opens_text o.title o.timeout pages) (read?_mainElement h pages) around
  rw [read?, assemble_eq, all]

end Document

end MiniApp.Document

import MiniApp.Proofs.Document.Body
import MiniApp.Proofs.Document.Reader
import MiniApp.Proofs.Document.Script

/-!
# What a document shows

The title of a document, the page that its main element names and the lines inside that element, and of
its script the page that the configuration names and the pages of the table are read back from the
text of the document, without knowing what it was put together from.
-/

set_option autoImplicit false

namespace MiniApp

namespace DocumentScript

/-- The page on a line of the table: one entry with a title and a body. -/
def readPage? (line : String) : Option RenderedPage :=
  match Code.Literal.entries? line with
  | some [(id, .object [("title", .text title), ("html", .text html)])] => some ⟨id, title, html⟩
  | _ => none

/-- The pages of the table, one for each line between its brackets. -/
def table? (lines : List String) : Option (List RenderedPage) := do
  let table ← constant? "PAGES" lines
  (table.drop 1).dropLast.mapM readPage?

def initialPage? (lines : List String) : Option String := do
  match ← Code.Literal.object? (← constant? "MF_CONFIG" lines) with
  | .object entries =>
    match entries.lookup "initialPage" with
    | some (.text id) => some id
    | _ => none
  | _ => none

theorem readPage?_pageLine (p : RenderedPage) : readPage? (pageLine p) = some p := by
  rw [readPage?, entries?_pageLine]
  rfl

theorem table?_text (appName : String) (timeout : Nat) (pages : List RenderedPage) :
    table? (scriptLines (text appName timeout pages)) = some pages := by
  have read : ∀ ps : List RenderedPage, (ps.map pageLine).mapM readPage? = some ps := by
    intro ps
    induction ps with
    | nil => rfl
    | cons p ps ih => simp [readPage?_pageLine, ih]
  have lines : ((tableLines pages).drop 1).dropLast = pages.map pageLine := by
    rw [tableLines]
    split
    · next none =>
      rw [List.isEmpty_iff.1 none]
      rfl
    · rw [List.drop_succ_cons, List.drop_zero, List.dropLast_concat]
  rw [table?, constant?_pageTable]
  exact (congrArg (List.mapM readPage?) lines).trans (read pages)

theorem initialPage?_text (appName : String) (timeout : Nat) (first : RenderedPage)
    (rest : List RenderedPage) :
    initialPage? (scriptLines (text appName timeout (first :: rest))) = some first.id := by
  have found : (configurationEntries appName timeout first).lookup "initialPage" =
      some (.text first.id) := rfl
  rw [initialPage?, constant?_configuration, Option.bind_eq_bind, Option.bind_some,
    object?_configuration, Option.bind_eq_bind, Option.bind_some]
  simp only [found]

end DocumentScript

namespace Document

open Scanner (lineChars)
open Text (Opens cut? exists_cut opens_of_notMem)

/-- What a document shows, the lines of the main element without the blanks that they start with. -/
structure Contents where
  title : String
  page : String
  body : List String
  initialPage : String
  table : List RenderedPage
deriving DecidableEq

def contents? (document : String) : Option Contents := do
  let (_, title) ← Markup.element? "title" document
  let (start, body) ← Markup.element? "main" document
  let (_, script) ← Markup.element? "script" document
  let lines := linesInside script
  return ⟨← Markup.decoded? title, ← Markup.attribute? "data-page" start, linesInside body,
    ← DocumentScript.initialPage? lines, ← DocumentScript.table? lines⟩

section Frame

def headWords : List (List Char) := ["!DOCTYPE", "html", "head", "meta"].map String.toList

def frontWords : List (List Char) :=
  headWords ++ ["title", "/title", "style", "/style", "/head", "body"].map String.toList ++ comparison

def scriptWords : List (List Char) := frontWords ++ Markup.bodyWords

theorem opens_shell : Opens headWords (shellText 0) ∧ Opens headWords (shellText 2) ∧
    Opens frontWords (shellText 8) := by
  simp only [shellText, Asset.shell, List.getElem?_cons_succ, List.getElem?_cons_zero,
    String.toList_append, Asset.toList_fileText, List.flatMap_cons, List.flatMap_nil]
  repeat rw [String.toList_ofList]
  decide +kernel

theorem shell_cuts :
    ((cut? ('<' :: "title".toList) (shellText 4)).any fun r =>
      Text.opens headWords r.1 && r.2 == ['>']) = true ∧
    ((cut? ('<' :: '/' :: ("title".toList ++ ['>'])) (shellText 6)).any fun r =>
      r.1.isEmpty && Text.opens frontWords r.2) = true ∧
    ((cut? ('<' :: "script".toList) (shellText 10)).any fun r =>
      Text.opens scriptWords r.1 && r.2 == ['>', '\n']) = true ∧
    ((cut? ('<' :: '/' :: ("script".toList ++ ['>'])) (shellText 12)).any fun r =>
      r.1 == ['\n', ' ', ' ']) = true := by
  simp only [shellText, Asset.shell, List.getElem?_cons_succ, List.getElem?_cons_zero,
    String.toList_append, Asset.toList_fileText, List.flatMap_cons, List.flatMap_nil]
  repeat rw [String.toList_ofList]
  decide +kernel

theorem toList_shell (language theme title stylesheet main script : String) :
    (Asset.shell.fill (shellData language theme title stylesheet main script)).toList =
      shellText 0 ++ (language.toList ++ (shellText 2 ++ (theme.toList ++ (shellText 4 ++
        ((Escape.markup title).toList ++ (shellText 6 ++ ((indentBlock stylesheet 4).toList ++
          (shellText 8 ++ ((indentBlock main 2).toList ++ (shellText 10 ++
            ((indentBlock script 4).toList ++ shellText 12))))))))))) := by
  rw [Template.fill, shellData, Asset.shell]
  simp only [Template.expandAll, String.toList_append, String.toList_empty, List.append_nil]
  rfl

end Frame

section Elements

def scriptContent (script : String) : List Char :=
  '\n' :: ((indentBlock script 4).toList ++ ['\n', ' ', ' '])

/-- A document around its three elements, with what stands before, between and behind them. -/
structure Outline (title : String) (main : List Char) (script document : String) where
  before : List Char
  between : List Char
  back : List Char
  rest : List Char
  split : document.toList = before ++ (Markup.elementChars "title" [] (Escape.markup title).toList ++
    (between ++ (main ++ (back ++
      (Markup.elementChars "script" [] (scriptContent script) ++ rest)))))
  opens_before : Opens headWords before
  opens_between : Opens frontWords between
  opens_back : Opens scriptWords back

theorem outline_shell {language theme stylesheet : String} (hlanguage : '<' ∉ language.toList)
    (htheme : '<' ∉ theme.toList) (hstyle : Opens comparison stylesheet.toList)
    (title main script : String) : Nonempty (Outline title (indentBlock main 2).toList script
      (Asset.shell.fill (shellData language theme title stylesheet main script))) := by
  obtain ⟨cut4, cut6, cut10, cut12⟩ := shell_cuts
  obtain ⟨before, end4, h4, p4⟩ := exists_cut cut4
  obtain ⟨start6, between, h6, p6⟩ := exists_cut cut6
  obtain ⟨back, end10, h10, p10⟩ := exists_cut cut10
  obtain ⟨start12, rest, h12, p12⟩ := exists_cut cut12
  simp only [Bool.and_eq_true, Text.opens_eq_true_iff, List.isEmpty_iff, beq_iff_eq] at p4 p6 p10 p12
  have compares : ∀ w ∈ comparison, w ∈ frontWords := by decide
  have style := (opens_indentBlock unbroken_comparison hstyle 4).mono compares
  have opens_before := opens_shell.1.append ((opens_of_notMem hlanguage).append
    (opens_shell.2.1.append ((opens_of_notMem htheme).append p4.1)))
  have opens_between := p6.2.append (style.append opens_shell.2.2)
  have split := toList_shell language theme title stylesheet main script
  rw [h4, h6, h10, h12, p4.2, p6.1, p10.2, p12] at split
  refine ⟨⟨_, _, back, rest, split.trans ?_, opens_before, opens_between, p10.1⟩⟩
  simp only [Markup.elementChars, scriptContent, List.append_assoc, List.cons_append, List.nil_append]

section Found

variable {title script document : String} {main : List Char}

theorem element?_title (outline : Outline title main script document) :
    ∃ tag, Markup.element? "title" document = some (tag, Escape.markup title) := by
  have apart : ∀ w ∈ headWords, ¬ w <+: "title".toList ∧ ¬ "title".toList <+: w := by decide
  have plain : Opens [] (Escape.markup title).toList := opens_of_notMem (Markup.notMem_markup title)
  have found := Markup.element?_eq outline.split (outline.opens_before.passes apart)
    List.not_mem_nil (plain.passes (List.forall_mem_nil _))
  rw [String.ofList_toList] at found
  exact ⟨_, found⟩

theorem Outline.opens_front (outline : Outline title main script document) :
    Opens frontWords (outline.before ++
      (Markup.elementChars "title" [] (Escape.markup title).toList ++ outline.between)) := by
  have early : ∀ w ∈ headWords, w ∈ frontWords := by decide
  have start : Opens frontWords ('<' :: "title".toList) ∧ Opens frontWords ['>'] := by decide
  have finish : Opens frontWords ('<' :: '/' :: ("title".toList ++ ['>'])) := by decide
  have plain : Opens frontWords (Escape.markup title).toList :=
    opens_of_notMem (Markup.notMem_markup title)
  have element : Opens frontWords (Markup.elementChars "title" [] (Escape.markup title).toList) := by
    have all := start.1.append (start.2.append (plain.append finish))
    rwa [List.singleton_append, ← List.nil_append ('>' :: _), ← Markup.elementChars] at all
  exact (outline.opens_before.mono early).append (element.append outline.opens_between)

theorem element?_main {attrs content : List Char} (outline : Outline title main script document)
    (block : main = [' ', ' '] ++ Markup.elementChars "main" attrs content) (plain : '>' ∉ attrs)
    (inside : Opens (Markup.wordsOf Markup.tagNames) content) :
    Markup.element? "main" document =
      some (String.ofList ('<' :: ("main".toList ++ attrs ++ ['>'])), String.ofList content) := by
  subst block
  have apart : ∀ w ∈ frontWords, ¬ w <+: "main".toList ∧ ¬ "main".toList <+: w := by decide
  have closes : ∀ w ∈ Markup.wordsOf Markup.tagNames,
      ¬ w <+: '/' :: ("main".toList ++ ['>']) ∧ ¬ '/' :: ("main".toList ++ ['>']) <+: w := by decide
  have blanks : Opens frontWords [' ', ' '] := opens_of_notMem (by decide)
  have split : document.toList =
      (outline.before ++ (Markup.elementChars "title" [] (Escape.markup title).toList ++
        outline.between)) ++ [' ', ' '] ++ (Markup.elementChars "main" attrs content ++
          (outline.back ++
            (Markup.elementChars "script" [] (scriptContent script) ++ outline.rest))) :=
    outline.split.trans (by simp only [List.append_assoc])
  exact Markup.element?_eq split ((outline.opens_front.append blanks).passes apart) plain
    (inside.passes closes)

theorem element?_script (outline : Outline title main script document)
    (opens_main : Opens frameWords main) (code : Opens comparison script.toList) :
    ∃ tag, Markup.element? "script" document = some (tag, String.ofList (scriptContent script)) := by
  have apart : ∀ w ∈ scriptWords, ¬ w <+: "script".toList ∧ ¬ "script".toList <+: w := by decide
  have closes : ∀ w ∈ comparison,
      ¬ w <+: '/' :: ("script".toList ++ ['>']) ∧ ¬ '/' :: ("script".toList ++ ['>']) <+: w := by decide
  have early : ∀ w ∈ frontWords, w ∈ scriptWords := fun w => List.mem_append_left _
  have body : ∀ w ∈ frameWords, w ∈ scriptWords := by decide
  have content : Opens comparison (scriptContent script) :=
    .cons (fun hc => absurd hc (by decide))
      ((opens_indentBlock unbroken_comparison code 4).append (opens_of_notMem (by decide)))
  have before := ((outline.opens_front.mono early).append (opens_main.mono body)).append
    outline.opens_back
  have split : document.toList =
      (outline.before ++ (Markup.elementChars "title" [] (Escape.markup title).toList ++
        outline.between)) ++ main ++ outline.back ++
          (Markup.elementChars "script" [] (scriptContent script) ++ outline.rest) :=
    outline.split.trans (by simp only [List.append_assoc])
  exact ⟨_, Markup.element?_eq split (before.passes apart) List.not_mem_nil (content.passes closes)⟩

end Found

theorem linesInside_scriptContent {script : String} (shows : Text.linesOf script ≠ [])
    (whole : ∀ line ∈ Text.linesOf script, Whole line) :
    linesInside (String.ofList (scriptContent script)) = DocumentScript.scriptLines script := by
  have block : scriptContent script =
      '\n' :: (lineChars ((Text.linesOf script).map (placed 4)) ++ List.replicate 2 ' ') := by
    rw [← toList_indentBlock shows 4, List.append_assoc]
    rfl
  have moved : ∀ line ∈ (Text.linesOf script).map (placed 4), Whole line :=
    List.forall_mem_map.2 fun line hl => (whole line hl).placed 4
  rw [block, linesInside_block moved (by decide), List.map_map, DocumentScript.scriptLines]
  exact List.map_congr_left fun line _ => outdented_placed 4 line

end Elements

section Assembled

/-- A document around a body shows that body, the first of its pages, and all of them in its table. -/
theorem contents?_assemble (o : DocumentOptions) {body : String} (h : IsBody body)
    (first : RenderedPage) (rest : List RenderedPage) :
    contents? (assemble o body (first :: rest)) =
      some ⟨first.title, first.id, (Text.linesOf body).map outdented, first.id, first :: rest⟩ := by
  have code := DocumentScript.opens_text o.title o.timeout (first :: rest)
  have main := opens_indentBlock unbroken_frameWords
    (opens_mainElement (h.opens.mono Markup.wordsOf_tagNames_subset) (first :: rest)) 2
  obtain ⟨assembled⟩ := outline_shell (notMem_languageTag o) (notMem_theme o.darkMode)
    (Theme.opens_stylesheet o.title o.darkMode) first.title
    (Markup.render (mainElement body (first :: rest)))
    (DocumentScript.text o.title o.timeout (first :: rest))
  obtain ⟨_, title⟩ := element?_title assembled
  obtain ⟨_, script⟩ := element?_script assembled main code
  have plain := notMem_mainAttrs close_notMem_attributeValue (by decide) (first :: rest)
  have shown := element?_main assembled (toList_mainBlock h (first :: rest)) plain (opens_mainContent h)
  have start : String.ofList ('<' :: ("main".toList ++ (mainAttrs (first :: rest)).toList ++ ['>'])) =
      mainStart (first :: rest) :=
    String.toList_injective (by simp [mainStart])
  have lines := linesInside_scriptContent
    (DocumentScript.linesOf_text_ne_nil o.title o.timeout (first :: rest))
    (DocumentScript.whole_text o.title o.timeout (first :: rest))
  rw [start] at shown
  rw [assemble_eq, List.head?_cons, Option.map_some, Option.getD_some, contents?, title, shown, script]
  simp only [Option.bind_eq_bind, Option.bind_some, Markup.decoded?_markup, attribute?_main, lines,
    DocumentScript.initialPage?_text, DocumentScript.table?_text, linesInside_mainContent h]
  rfl

end Assembled

end Document

end MiniApp

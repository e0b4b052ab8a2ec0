import MiniApp.Proofs.Document.Frame
import MiniApp.Proofs.Markup.Content
import MiniApp.Proofs.Source.Indent
import MiniApp.Proofs.Walk.Elements

set_option autoImplicit false

namespace MiniApp.Document

open Markup (wordsOf tagNames)
open Scanner (lineChars)
open Text (Opens opens_of_notMem)

/-- A text that can stand inside the main element. -/
structure IsBody (body : String) : Prop where
  whole : ∀ line ∈ Text.linesOf body, Whole line
  opens : Opens (wordsOf tagNames) body.toList

section Bodies

theorem isBody_output (g : Graph) : IsBody (walk g .document).output := by
  rw [output_eq_fragment]
  have laid := g.unfold.laidOut_fragment DocumentRule.laysOut 1
  have solid := Tree.solid_linesOfAll Markup.onOneLine laid.tidy 0
  refine ⟨?_, (accepted_fragment 1 g.unfold).opens⟩
  rw [laid.text, linesOf_finishLines solid]
  exact fun line hl => (solid line hl).whole

def noticeLines (reason : String) : List String :=
  ["<div class=\"mf-empty\" data-generation-error=\"true\">",
    indented 1 "<p class=\"mf-text\">This page could not be generated.</p>",
    indented 1 ("<p class=\"mf-text mf-error-reason\">" ++ Markup.text reason ++ "</p>"),
    "</div>"]

theorem brokenPage_eq (reason : String) : brokenPage reason = finishLines (noticeLines reason) := by
  have lines (level : Nat) (classes : List String) (text : String) :
      Tree.lines Markup.dialect level (.element ⟨"p", false, classes, [], []⟩ [.text text]) =
        [indented level (Markup.opening ⟨"p", false, classes, [], []⟩ ++ ">" ++ Markup.text text ++
          "</p>")] :=
    Tree.lines_text Markup.dialect level rfl text
  have start : Markup.opening ⟨"div", false, ["mf-empty"],
      [("data-generation-error", .text "true")], []⟩ ++ ">" =
        "<div class=\"mf-empty\" data-generation-error=\"true\">" := by decide +kernel
  have first : Markup.opening ⟨"p", false, ["mf-text"], [], []⟩ ++ ">" ++
      Markup.text "This page could not be generated." ++ "</p>" =
        "<p class=\"mf-text\">This page could not be generated.</p>" := by decide +kernel
  have second : Markup.opening ⟨"p", false, ["mf-text", "mf-error-reason"], [], []⟩ ++ ">" =
      "<p class=\"mf-text mf-error-reason\">" := by decide +kernel
  rw [brokenPage, Markup.render, Tree.render, Tree.lines_block _ _ rfl (List.cons_ne_nil _ _)
    (by simp), Tree.linesOfAll_eq_flatMap]
  simp only [List.flatMap_cons, List.flatMap_nil, lines, first, second]
  change finishLines (indented 0 (Markup.opening _ ++ ">") :: _) = _
  rw [start]
  rfl

theorem solid_notice (reason : String) : ∀ line ∈ noticeLines reason, Solid line := by
  have start : Solid "<div class=\"mf-empty\" data-generation-error=\"true\">" :=
    ⟨by decide +kernel, by decide +kernel, by decide +kernel⟩
  have first : Solid "<p class=\"mf-text\">This page could not be generated.</p>" :=
    ⟨by decide +kernel, by decide +kernel, by decide +kernel⟩
  have second : Solid ("<p class=\"mf-text mf-error-reason\">" ++ Markup.text reason ++ "</p>") := by
    have unbroken : '\n' ∉ (Markup.text reason).toList := Markup.onOneLine.text reason
    have last : "</p>" = "</p" ++ ">" := rfl
    have written : "<p class=\"mf-text mf-error-reason\">" ++ Markup.text reason ++ "</p>" =
        "<p class=\"mf-text mf-error-reason\">" ++ Markup.text reason ++ "</p" ++ ">" := by
      rw [last, ← String.append_assoc]
    exact solid_of_bracket written (by simp [unbroken])
  have finish : Solid "</div>" := ⟨by decide, by decide, by decide⟩
  simp only [noticeLines, List.forall_mem_cons]
  exact ⟨start, first.indented 1, second.indented 1, finish, List.forall_mem_nil _⟩

theorem opens_notice (reason : String) :
    ∀ line ∈ noticeLines reason, Opens (wordsOf tagNames) line.toList := by
  have text : Opens (wordsOf tagNames) (Markup.text reason).toList :=
    Markup.opens_of_scan (Markup.scan_text reason) (Markup.wellFormed_words reason).allowed
  simp only [noticeLines, List.forall_mem_cons]
  refine ⟨by decide +kernel, opens_indented (by decide +kernel) 1, opens_indented ?_ 1, by decide +kernel,
    List.forall_mem_nil _⟩
  rw [String.toList_append, String.toList_append]
  exact (Opens.append (by decide +kernel) text).append (by decide +kernel)

theorem isBody_brokenPage (reason : String) : IsBody (brokenPage reason) := by
  have solid := solid_notice reason
  have unbroken : Text.Unbroken (wordsOf tagNames) := fun w hw =>
    Markup.unbroken_bodyWords w (Markup.wordsOf_tagNames_subset w hw)
  rw [brokenPage_eq]
  refine ⟨?_, opens_finishLines unbroken (opens_notice reason)⟩
  rw [linesOf_finishLines solid]
  exact fun line hl => (solid line hl).whole

theorem isBody_pageBody (p : Page) : IsBody (pageBody p) := by
  rw [pageBody]
  cases p.readGraph with
  | ok g => exact isBody_output g
  | error e => exact isBody_brokenPage e.message

end Bodies

section Main

def mainAttrs (pages : List RenderedPage) : String :=
  String.join ((("id", .text "mf-app") ::
    pages.head?.toList.map fun p => ("data-page", .text p.id)).map Markup.attrText)

def mainHead (pages : List RenderedPage) : Markup.Head :=
  ⟨"main", false, [],
    ("id", .text "mf-app") :: (pages.head?.toList.map fun p => ("data-page", .text p.id)), []⟩

theorem mainElement_eq (body : String) (pages : List RenderedPage) :
    mainElement body pages = .element (mainHead pages) (Tree.raws [body]) := rfl

theorem opening_mainHead (pages : List RenderedPage) :
    Markup.opening (mainHead pages) ++ ">" = "<main" ++ mainAttrs pages ++ ">" := by
  have name : "<" ++ "main" = "<main" := by decide
  rw [Markup.opening, mainHead, mainAttrs]
  simp [Markup.classText, Markup.styleText, name]

theorem close_notMem_markupChar (c : Char) : '>' ∉ Escape.markupChar c := by
  unfold Escape.markupChar
  split
  iterate 5 decide
  · next _ _ _ bracket _ _ => simpa using Ne.symm bracket

theorem close_notMem_attributeChar (c : Char) : '>' ∉ Escape.attributeChar c := by
  unfold Escape.attributeChar
  split
  iterate 3 decide
  · exact close_notMem_markupChar c

theorem close_notMem_attributeValue (s : String) : '>' ∉ (Escape.attributeValue s).toList := by
  rw [Escape.attributeValue, Escape.toList_each, List.mem_flatMap]
  rintro ⟨c, -, hc⟩
  exact close_notMem_attributeChar c hc

theorem notMem_mainAttrs {c : Char} (values : ∀ s, c ∉ (Escape.attributeValue s).toList)
    (fixed : c ∉ " id=\"data-page".toList) (pages : List RenderedPage) :
    c ∉ (mainAttrs pages).toList := by
  have own := values "mf-app"
  cases pages with
  | nil => simp_all [mainAttrs, Markup.attrText]
  | cons p pages =>
    have page := values p.id
    simp_all [mainAttrs, Markup.attrText]

def mainStart (pages : List RenderedPage) : String := "<main" ++ mainAttrs pages ++ ">"

theorem solid_mainStart (pages : List RenderedPage) : Solid (mainStart pages) := by
  have unbroken := notMem_mainAttrs Markup.feed_notMem_attributeValue (by decide) pages
  exact solid_of_bracket rfl (by simp [mainStart, unbroken])

theorem indented_zero (line : String) : indented 0 line = line := by
  rw [indented]
  split
  · next empty => exact empty.symm
  · exact String.empty_append

theorem placed_bracket {line : String} (h : '<' ∈ line.toList) (width : Nat) :
    placed width line = spaces width ++ line := by
  rw [placed, if_neg]
  intro blank
  rw [Text.isBlankText, List.all_eq_true] at blank
  exact absurd (blank _ h) (by decide)

theorem bracket_mem_mainStart (pages : List RenderedPage) : '<' ∈ (mainStart pages).toList := by
  simp [mainStart]

theorem linesOf_mainElement {body : String} (h : IsBody body) (pages : List RenderedPage) :
    Text.linesOf (Markup.render (mainElement body pages)) =
      if body = "" then [mainStart pages ++ "</main>"]
      else mainStart pages :: (blockLines 1 body ++ ["</main>"]) := by
  have close : Solid "</main>" := ⟨by decide, by decide, by decide⟩
  rw [mainElement_eq, Markup.render, Tree.render]
  split
  · next empty =>
    have childless : Markup.dialect.childless (mainHead pages) = mainStart pages ++ "</main>" := by
      rw [mainStart, ← opening_mainHead]
      rfl
    have written : mainStart pages ++ "</main>" = mainStart pages ++ "</main" ++ ">" := by
      rw [String.append_assoc]
      rfl
    have unbroken : '\n' ∉ (mainStart pages ++ "</main>").toList := by
      simp [(solid_mainStart pages).unbroken]
    have none : Tree.raws [body] = ([] : List Markup.Tree) := by simp [Tree.raws, empty]
    rw [none, Tree.lines_nil, indented_zero, childless]
    exact linesOf_finishLines (List.forall_mem_singleton.2 (solid_of_bracket written unbroken))
  · next shows =>
    have opening : Markup.dialect.opening (mainHead pages) ++ ">" = mainStart pages :=
      opening_mainHead pages
    have closing : Tree.closing (mainHead pages) = "</main>" := rfl
    have one : Tree.raws [body] = ([.raw body] : List Markup.Tree) := by simp [Tree.raws, shows]
    have front : ∀ line ∈ mainStart pages :: blockLines 1 body, Whole line :=
      List.forall_mem_cons.2 ⟨(solid_mainStart pages).whole,
        List.forall_mem_map.2 fun line hl => (h.whole line hl).indented 1⟩
    have all := linesOf_finishLines_concat front close
    rw [one, Tree.lines_block _ _ rfl (List.cons_ne_nil _ _) (by simp), opening, closing,
      indented_zero, indented_zero, Tree.linesOfAll, Tree.linesOfAll, List.append_nil]
    exact all

def mainContent (body : String) : List Char :=
  if body = "" then []
  else '\n' :: (lineChars ((Text.linesOf body).map fun line => placed 2 (indented 1 line)) ++ [' ', ' '])

theorem toList_mainBlock {body : String} (h : IsBody body) (pages : List RenderedPage) :
    (indentBlock (Markup.render (mainElement body pages)) 2).toList =
      [' ', ' '] ++ Markup.elementChars "main" (mainAttrs pages).toList (mainContent body) := by
  have lines := linesOf_mainElement h pages
  have some : Text.linesOf (Markup.render (mainElement body pages)) ≠ [] := by
    rw [lines]
    split <;> exact List.cons_ne_nil _ _
  have block := toList_indentBlock some 2
  have start := placed_bracket (bracket_mem_mainStart pages) 2
  refine List.append_cancel_right (block.trans ?_)
  rw [lines, mainContent, Markup.elementChars]
  split
  · have line : '<' ∈ (mainStart pages ++ "</main>").toList := by simp
    rw [List.map_singleton, placed_bracket line]
    simp [lineChars, spaces, mainStart]
  · have close : placed 2 "</main>" = "  </main>" := by decide
    rw [List.map_cons, List.map_append, start, List.map_singleton, close, blockLines, List.map_map]
    simp [lineChars, spaces, Function.comp_def, mainStart]

theorem linesInside_mainContent {body : String} (h : IsBody body) :
    linesInside (String.ofList (mainContent body)) = (Text.linesOf body).map outdented := by
  rw [mainContent]
  split
  · next empty =>
    rw [empty]
    rfl
  · have whole : ∀ line ∈ (Text.linesOf body).map fun line => placed 2 (indented 1 line), Whole line :=
      List.forall_mem_map.2 fun line hl => ((h.whole line hl).indented 1).placed 2
    have blanks : [' ', ' '] = List.replicate 2 ' ' := rfl
    rw [blanks, linesInside_block whole (by decide), List.map_map]
    exact List.map_congr_left fun line _ => (outdented_placed 2 _).trans (outdented_indented 1 line)

theorem opens_mainContent {body : String} (h : IsBody body) :
    Opens (wordsOf tagNames) (mainContent body) := by
  have unbroken : Text.Unbroken (wordsOf tagNames) := fun w hw =>
    Markup.unbroken_bodyWords w (Markup.wordsOf_tagNames_subset w hw)
  rw [mainContent]
  split
  · exact .nil
  · refine .cons (fun hc => absurd hc (by decide)) (.append (Text.opens_flatMap ?_)
      (opens_of_notMem (by decide)))
    rw [List.forall_mem_map]
    intro line hl
    have moved := opens_indented (opens_linesOf unbroken h.opens line hl) 1
    refine .append ?_ (opens_of_notMem (by decide))
    rw [placed]
    split
    · exact .nil
    · rw [String.toList_append]
      exact (opens_spaces 2).append moved

theorem attribute?_main (first : RenderedPage) (rest : List RenderedPage) :
    Markup.attribute? "data-page" (mainStart (first :: rest)) = some first.id := by
  have name : "main".toList ≠ [] ∧ "main".toList.all Markup.isNameChar = true := by decide
  have legible : Markup.Legible (mainHead (first :: rest)) :=
    ⟨name, List.forall_mem_cons.2 ⟨.inl rfl, List.forall_mem_singleton.2 (.inl rfl)⟩⟩
  have read : Markup.read? (mainStart (first :: rest)) =
      some [Markup.startTag (mainHead (first :: rest))] := by
    rw [mainStart, ← opening_mainHead]
    exact Markup.read?_eq_some_iff.2 (Markup.scan_opening legible)
  rw [Markup.attribute?, read]
  rfl

end Main

end MiniApp.Document

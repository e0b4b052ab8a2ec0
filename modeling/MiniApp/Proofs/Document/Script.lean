import MiniApp.Proofs.Code.Objects
import MiniApp.Proofs.Document.Parts
import MiniApp.Proofs.Source.Indent

set_option autoImplicit false

namespace MiniApp

open Code (Reads Leads leads_of_run reads_chars reads_literal chars Token separated)

namespace DocumentScript

section Reader

def untilSemicolon : List String → Option (List String)
  | [] => none
  | line :: lines =>
    if line.toList.getLast? = some ';' then some [String.ofList line.toList.dropLast]
    else (untilSemicolon lines).map (line :: ·)

def declares (name : String) : String := "const " ++ name ++ " = "

def isDeclaration (name line : String) : Bool := (declares name).toList.isPrefixOf line.toList

/-- The lines of the value that the first constant of a name is declared with. -/
def constant? (name : String) (lines : List String) : Option (List String) :=
  match lines.dropWhile fun line => !isDeclaration name line with
  | [] => none
  | first :: rest =>
    untilSemicolon (String.ofList (first.toList.drop (declares name).toList.length) :: rest)

theorem constant?_append {name : String} {before : List String}
    (others : ∀ line ∈ before, isDeclaration name line = false) (lines : List String) :
    constant? name (before ++ lines) = constant? name lines := by
  have passed : ∀ line ∈ before, (!isDeclaration name line) = true := fun line hl => by
    rw [others line hl]
    rfl
  rw [constant?, constant?, List.dropWhile_append_of_pos passed]

theorem constant?_cons (name first : String) (lines : List String) :
    constant? name ((declares name ++ first) :: lines) = untilSemicolon (first :: lines) := by
  have here : isDeclaration name (declares name ++ first) = true := by
    rw [isDeclaration, String.toList_append, List.isPrefixOf_iff_prefix]
    exact List.prefix_append ..
  simp [constant?, here]

theorem untilSemicolon_append {lines : List String}
    (open_ : ∀ line ∈ lines, line.toList.getLast? ≠ some ';') (last : String) (rest : List String) :
    untilSemicolon (lines ++ (last ++ ";") :: rest) = some (lines ++ [last]) := by
  induction lines with
  | nil => simp [untilSemicolon]
  | cons line lines ih =>
    rw [List.forall_mem_cons] at open_
    rw [List.cons_append, untilSemicolon, if_neg open_.1, ih open_.2]
    rfl

end Reader

section Entries

open Code.Literal (Unquoted unquoted_numeral ReadsEntry ReadsValue readsValue_text readsValue_word
  readsEntry_name readsEntry_quoted readsValue_object)

def pageEntry (p : RenderedPage) : String × Code.Literal :=
  (p.id, .object [("title", .text p.title), ("html", .text p.html)])

def pageTokens (p : RenderedPage) : List Token :=
  [.literal p.id] ++ chars ": " ++ (chars "\x7b " ++
    separated [chars "title" ++ chars ": " ++ [.literal p.title],
      chars "html" ++ chars ": " ++ [.literal p.html]] ++ chars " \x7d")

theorem reads_pageLine (p : RenderedPage) : Reads (pageLine p) (pageTokens p ++ chars ",") := by
  have opens : Leads ": \x7b title: " [] ['}'] (chars ": \x7b title: ") := leads_of_run (by decide)
  have between : Leads ", html: " ['}'] ['}'] (chars ", html: ") := leads_of_run (by decide)
  have closes : Leads " \x7d," ['}'] [] (chars " \x7d,") := leads_of_run (by decide)
  have all := (((((Leads.append (reads_literal p.id) opens).append
    ((reads_literal p.title).leads ['}'])).append between).append
      ((reads_literal p.html).leads ['}'])).append closes)
  exact all

theorem readsEntry_page (p : RenderedPage) : ReadsEntry (pageTokens p) (pageEntry p) := by
  have title : Unquoted "title" := ⟨by decide, by decide⟩
  have html : Unquoted "html" := ⟨by decide, by decide⟩
  exact readsEntry_quoted p.id (readsValue_object
    (.cons (readsEntry_name title (readsValue_text p.title))
      (.cons (readsEntry_name html (readsValue_text p.html)) .nil)) (List.cons_ne_nil _ _))

theorem entries?_pageLine (p : RenderedPage) :
    Code.Literal.entries? (pageLine p) = some [pageEntry p] := by
  have ends : Code.Literal.run (.inside [] [] .key) (pageTokens p ++ chars ",") =
      some (.inside [] [pageEntry p] .key) :=
    readsEntry_page p [] [] ',' (by decide) []
  rw [Code.Literal.entries?, (reads_pageLine p).read?_eq, Option.bind_some, ends]

def configurationEntries (appName : String) (timeout : Nat) (first : RenderedPage) :
    List (String × Code.Literal) :=
  [("appName", .text appName), ("bridgeTimeoutMs", .word (Numeral.text (.ofNat timeout))),
    ("initialPage", .text first.id)]

theorem object?_configuration (appName : String) (timeout : Nat) (first : RenderedPage)
    (rest : List RenderedPage) :
    Code.Literal.object? [(configuration appName timeout (first :: rest)).render] =
      some (.object (configurationEntries appName timeout first)) := by
  have written : (configuration appName timeout (first :: rest)).Readable := by
    refine Script.readable_record ?_
    simp only [List.forall_mem_cons]
    exact ⟨⟨by decide, Script.readable_text _⟩, ⟨by decide, Script.readable_number _⟩,
      ⟨by decide, Script.readable_text _⟩, List.forall_mem_nil _⟩
  have keys : Unquoted "appName" ∧ Unquoted "bridgeTimeoutMs" ∧ Unquoted "initialPage" :=
    ⟨⟨by decide, by decide⟩, ⟨by decide, by decide⟩, ⟨by decide, by decide⟩⟩
  exact Code.Literal.object?_line written
    (.cons (readsEntry_name keys.1 (readsValue_text appName))
      (.cons (readsEntry_name keys.2.1 (readsValue_word (unquoted_numeral _)))
        (.cons (readsEntry_name keys.2.2 (readsValue_text first.id)) .nil))) (List.cons_ne_nil _ _)

theorem object?_pageTable (pages : List RenderedPage) :
    Code.Literal.object? ("\x7b" :: (pages.map pageLine ++ ["\x7d"])) =
      some (.object (pages.map pageEntry)) := by
  have written : List.Forall₂ Reads (pages.map pageLine)
      ((pages.map pageTokens).map (· ++ chars ",")) := by
    rw [List.map_map, List.forall₂_map_left_iff, List.forall₂_map_right_iff]
    exact List.forall₂_same.2 fun p _ => reads_pageLine p
  have read : List.Forall₂ ReadsEntry (pages.map pageTokens) (pages.map pageEntry) := by
    rw [List.forall₂_map_left_iff, List.forall₂_map_right_iff]
    exact List.forall₂_same.2 fun p _ => readsEntry_page p
  exact Code.Literal.object?_lines written read

end Entries

section Lines

def scriptRest : List String := [""] ++ Asset.bridgeScript ++ [""] ++ Asset.interactionScript

def isWhole (cs : List Char) : Bool := !cs.contains '\n' && cs.getLast? != some '\r'

theorem whole_of_isWhole {line : String} (h : isWhole line.toList = true) : Whole line := by
  rw [isWhole, Bool.and_eq_true] at h
  exact ⟨by simpa using h.1, by simpa using h.2⟩

set_option maxRecDepth 10000 in
theorem whole_scriptRest : ∀ line ∈ scriptRest, Whole line := by
  have bridge : ∀ line ∈ Asset.bridgeScript, isWhole line.toList = true :=
    Spelled.forall (by unfold Asset.bridgeScript; repeat constructor) (by decide +kernel)
  have interaction : ∀ line ∈ Asset.interactionScript, isWhole line.toList = true :=
    Spelled.forall (by unfold Asset.interactionScript; repeat constructor) (by decide +kernel)
  have blank : ∀ line ∈ [""], Whole line := List.forall_mem_singleton.2 whole_empty
  simp only [scriptRest, List.forall_mem_append]
  exact ⟨⟨⟨blank, fun line hl => whole_of_isWhole (bridge line hl)⟩, blank⟩,
    fun line hl => whole_of_isWhole (interaction line hl)⟩

theorem whole_of_isCode {line : String} (h : IsCode line) : Whole line where
  unbroken hm := absurd (h _ hm) (by decide)
  ends last := absurd (h _ (List.mem_of_getLast? last)) (by decide)

theorem whole_configurationLine (appName : String) (timeout : Nat) (pages : List RenderedPage) :
    Whole (configurationLine appName timeout pages) :=
  whole_of_isCode ((IsCode.append (by decide) (isCode_configuration appName timeout pages)).append
    (by decide))

theorem whole_pageTable (pages : List RenderedPage) : ∀ line ∈ pageTable pages, Whole line := by
  rw [pageTable]
  split
  · exact List.forall_mem_singleton.2 (whole_of_isCode (by decide))
  · simp only [List.forall_mem_append, List.forall_mem_map, List.forall_mem_singleton]
    exact ⟨⟨whole_of_isCode (by decide), fun p _ => (whole_of_isCode (isCode_pageLine p)).indented 1⟩,
      whole_of_isCode (by decide)⟩

theorem linesOf_text (appName : String) (timeout : Nat) (pages : List RenderedPage) :
    Text.linesOf (text appName timeout pages) =
      ["'use strict';", "", configurationLine appName timeout pages] ++
        (pageTable pages ++ scriptRest) := by
  obtain ⟨front, last⟩ : ∃ front, scriptRest = front ++ ["\x7d)();"] :=
    List.getLast?_eq_some_iff.1 (by decide +kernel)
  have whole : ∀ line ∈ front, Whole line := fun line hl =>
    whole_scriptRest line (last ▸ List.mem_append_left _ hl)
  have solid : Solid "\x7d)();" := ⟨by decide, by decide, by decide⟩
  have written : text appName timeout pages =
      finishLines ((["'use strict';", "", configurationLine appName timeout pages] ++
        (pageTable pages ++ front)) ++ ["\x7d)();"]) := by
    rw [List.append_assoc, List.append_assoc, ← last, text, scriptRest]
    simp only [List.append_assoc]
  rw [written, linesOf_finishLines_concat _ solid, last]
  · simp only [List.append_assoc]
  · simp only [List.forall_mem_append, List.forall_mem_cons]
    exact ⟨⟨whole_of_isCode (by decide), whole_empty, whole_configurationLine ..,
      List.forall_mem_nil _⟩, whole_pageTable pages, whole⟩

theorem linesOf_text_ne_nil (appName : String) (timeout : Nat) (pages : List RenderedPage) :
    Text.linesOf (text appName timeout pages) ≠ [] := by
  rw [linesOf_text]
  exact List.cons_ne_nil _ _

theorem whole_text (appName : String) (timeout : Nat) (pages : List RenderedPage) :
    ∀ line ∈ Text.linesOf (text appName timeout pages), Whole line := by
  rw [linesOf_text]
  simp only [List.forall_mem_append, List.forall_mem_cons]
  exact ⟨⟨whole_of_isCode (by decide), whole_empty, whole_configurationLine ..,
    List.forall_mem_nil _⟩, whole_pageTable pages, whole_scriptRest⟩

def scriptLines (script : String) : List String := (Text.linesOf script).map outdented

theorem outdented_pageLine (p : RenderedPage) : outdented (pageLine p) = pageLine p := by
  refine outdented_eq fun c hc => ?_
  have quote : (pageLine p).toList.head? = some '\'' := by simp [pageLine, Escape.literal]
  rw [quote] at hc
  rw [← Option.mem_some.1 hc]
  rfl

theorem outdented_configurationLine (appName : String) (timeout : Nat) (pages : List RenderedPage) :
    outdented (configurationLine appName timeout pages) = configurationLine appName timeout pages := by
  have plain (value : String) : outdented ("const MF_CONFIG = " ++ value ++ ";") =
      "const MF_CONFIG = " ++ value ++ ";" := by
    refine outdented_eq fun c hc => ?_
    have letter : ("const MF_CONFIG = " ++ value ++ ";").toList.head? = some 'c' := by simp
    rw [letter] at hc
    rw [← Option.mem_some.1 hc]
    rfl
  exact plain _

theorem scriptLines_text (appName : String) (timeout : Nat) (pages : List RenderedPage) :
    scriptLines (text appName timeout pages) =
      ["'use strict';", ""] ++ configurationLine appName timeout pages ::
        ((pageTable pages).map outdented ++ scriptRest.map outdented) := by
  have first : outdented "'use strict';" = "'use strict';" := by decide
  rw [scriptLines, linesOf_text, List.map_append, List.map_append, List.map_cons, List.map_cons,
    List.map_cons, outdented_configurationLine, first]
  rfl

theorem constant?_configuration (appName : String) (timeout : Nat) (pages : List RenderedPage) :
    constant? "MF_CONFIG" (scriptLines (text appName timeout pages)) =
      some [(configuration appName timeout pages).render] := by
  have others : ∀ line ∈ ["'use strict';", ""], isDeclaration "MF_CONFIG" line = false := by decide
  have written : configurationLine appName timeout pages =
      declares "MF_CONFIG" ++ ((configuration appName timeout pages).render ++ ";") :=
    String.append_assoc
  rw [scriptLines_text, constant?_append others, written, constant?_cons]
  exact untilSemicolon_append (List.forall_mem_nil _) _ _

def tableLines (pages : List RenderedPage) : List String :=
  if pages.isEmpty then ["\x7b\x7d"] else "\x7b" :: (pages.map pageLine ++ ["\x7d"])

theorem map_outdented_pageLine (pages : List RenderedPage) :
    (pages.map fun p => indented 1 (pageLine p)).map outdented = pages.map pageLine := by
  rw [List.map_map]
  exact List.map_congr_left fun p _ => (outdented_indented 1 _).trans (outdented_pageLine p)

theorem pageTable_declares (pages : List RenderedPage) :
    ∃ first lines, (pageTable pages).map outdented = (declares "PAGES" ++ first) :: lines ∧
      ∀ rest, untilSemicolon (first :: (lines ++ rest)) = some (tableLines pages) := by
  rw [pageTable, tableLines]
  split
  · exact ⟨"\x7b\x7d;", [], rfl,
      fun rest => untilSemicolon_append (List.forall_mem_nil _) "\x7b\x7d" rest⟩
  · have goesOn : ∀ line ∈ "\x7b" :: pages.map pageLine, line.toList.getLast? ≠ some ';' := by
      rw [List.forall_mem_cons, List.forall_mem_map]
      refine ⟨by decide, fun p _ => ?_⟩
      rw [pageLine, String.toList_append, List.getLast?_append_of_ne_nil _ (by decide)]
      decide
    refine ⟨"\x7b", pages.map pageLine ++ ["\x7d;"], ?_, fun rest => ?_⟩
    · rw [List.map_append, List.map_append, map_outdented_pageLine]
      rfl
    · rw [List.append_assoc]
      exact untilSemicolon_append goesOn "\x7d" rest

theorem isDeclaration_configurationLine (appName : String) (timeout : Nat) (pages : List RenderedPage) :
    isDeclaration "PAGES" (configurationLine appName timeout pages) = false := by
  have other (value : String) :
      isDeclaration "PAGES" ("const MF_CONFIG = " ++ value ++ ";") = false := by
    rw [isDeclaration, String.toList_append, String.toList_append]
    rfl
  exact other _

theorem constant?_pageTable (appName : String) (timeout : Nat) (pages : List RenderedPage) :
    constant? "PAGES" (scriptLines (text appName timeout pages)) = some (tableLines pages) := by
  obtain ⟨first, lines, written, ends⟩ := pageTable_declares pages
  have before : ["'use strict';", ""] ++ configurationLine appName timeout pages ::
      ((pageTable pages).map outdented ++ scriptRest.map outdented) =
        ["'use strict';", "", configurationLine appName timeout pages] ++
          ((declares "PAGES" ++ first) :: (lines ++ scriptRest.map outdented)) := by
    rw [written]
    rfl
  have others : ∀ line ∈ ["'use strict';", "", configurationLine appName timeout pages],
      isDeclaration "PAGES" line = false := by
    simp only [List.forall_mem_cons]
    exact ⟨by decide, by decide, isDeclaration_configurationLine .., List.forall_mem_nil _⟩
  rw [scriptLines_text, before, constant?_append others, constant?_cons, ends]

end Lines

end DocumentScript

end MiniApp

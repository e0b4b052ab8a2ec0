import MiniApp.Document.Basic
import MiniApp.Proofs.Component.Handler
import MiniApp.Proofs.Markup.Openings
import MiniApp.Proofs.Theme.Comment

set_option autoImplicit false

namespace MiniApp

open Text (Opens opens opens_of_notMem opens_intercalate opens_eq_true_iff)

def comparison : List (List Char) := [[' ']]

/-- What stands behind the brackets in a frame's variable parts: the tags of a body, and the blank
behind the sign of a comparison. -/
def frameWords : List (List Char) := [' '] :: Markup.bodyWords

theorem unbroken_comparison : Text.Unbroken comparison :=
  List.forall_mem_singleton.2 (by decide)

theorem unbroken_frameWords : Text.Unbroken frameWords :=
  List.forall_mem_cons.2 ⟨by decide, Markup.unbroken_bodyWords⟩

theorem opens_frameWords {cs : List Char} (h : Opens Markup.bodyWords cs) : Opens frameWords cs :=
  h.mono fun _ hw => List.mem_cons_of_mem _ hw

theorem opens_comparison {cs : List Char} (h : Opens comparison cs) : Opens frameWords cs :=
  h.mono fun _ hw => List.mem_singleton.1 hw ▸ List.mem_cons_self

/-- Lines told by their characters. Fixed lines are spelled by unification, so that their characters
can be looked at without decoding the lines. -/
inductive Spelled : List String → List (List Char) → Prop
  | nil : Spelled [] []
  | cons {lines : List String} {spelled : List (List Char)} (cs : List Char)
      (rest : Spelled lines spelled) : Spelled (String.ofList cs :: lines) (cs :: spelled)

theorem Spelled.forall {lines : List String} {spelled : List (List Char)} (h : Spelled lines spelled)
    {p : List Char → Bool} (hp : spelled.all p = true) : ∀ line ∈ lines, p line.toList = true := by
  induction h with
  | nil => exact List.forall_mem_nil _
  | cons cs _ ih =>
    rw [List.all_cons, Bool.and_eq_true] at hp
    refine List.forall_mem_cons.2 ⟨?_, ih hp.2⟩
    rw [String.toList_ofList]
    exact hp.1

theorem Asset.toList_fileText (lines : List String) :
    (fileText lines).toList = lines.flatMap fun line => line.toList ++ ['\n'] := by
  simp [fileText, List.flatMap_map]

section FixedLines

set_option maxRecDepth 10000 in
theorem opens_bridgeScript : ∀ line ∈ Asset.bridgeScript, Opens comparison line.toList := by
  have spelled : ∀ line ∈ Asset.bridgeScript, opens comparison line.toList = true :=
    Spelled.forall (by unfold Asset.bridgeScript; repeat constructor) (by decide +kernel)
  exact fun line hl => opens_eq_true_iff.1 (spelled line hl)

set_option maxRecDepth 10000 in
theorem opens_interactionScript : ∀ line ∈ Asset.interactionScript, Opens comparison line.toList := by
  have spelled : ∀ line ∈ Asset.interactionScript, opens comparison line.toList = true :=
    Spelled.forall (by unfold Asset.interactionScript; repeat constructor) (by decide +kernel)
  exact fun line hl => opens_eq_true_iff.1 (spelled line hl)

set_option maxRecDepth 10000 in
theorem opens_componentRules : ∀ line ∈ Asset.componentRules, Opens comparison line.toList := by
  have spelled : ∀ line ∈ Asset.componentRules, opens comparison line.toList = true :=
    Spelled.forall (by unfold Asset.componentRules; repeat constructor) (by decide +kernel)
  exact fun line hl => opens_eq_true_iff.1 (spelled line hl)

end FixedLines

namespace Theme

theorem notMem_tokens (isDark : Bool) :
    ∀ t ∈ tokens (palette isDark), '<' ∉ t.1.toList ∧ '<' ∉ t.2.toList := by
  cases isDark <;> decide +kernel

theorem opens_rootRule (isDark : Bool) : Opens comparison (rootRule isDark).toList := by
  have scheme : '<' ∉ (name isDark).toList := by cases isDark <;> decide
  refine opens_intercalate (opens_of_notMem (by decide)) ?_
  simp only [List.forall_mem_append, List.forall_mem_cons, List.forall_mem_map]
  refine ⟨⟨⟨opens_of_notMem (by decide), opens_of_notMem ?_, List.forall_mem_nil _⟩, ?_⟩,
    opens_of_notMem (by decide), opens_of_notMem (by decide), List.forall_mem_nil _⟩
  · simp [scheme]
  · intro t ht
    obtain ⟨key, value⟩ := notMem_tokens isDark t ht
    exact opens_of_notMem (by simp [key, value])

theorem opens_stylesheet (title : String) (isDark : Bool) :
    Opens comparison (stylesheet title isDark).toList := by
  have comment : '<' ∉ (Escape.comment title).toList := fun h => by
    rw [Escape.toList_comment] at h
    exact absurd (Escape.isDropped_of_mem_commentChars h) (by decide)
  have newline : Opens comparison "\n".toList := opens_of_notMem (by decide)
  have rules := opens_intercalate newline opens_componentRules
  simp only [stylesheet, String.toList_append]
  exact (((((opens_of_notMem (by decide)).append (opens_of_notMem comment)).append
    (opens_of_notMem (by decide))).append (opens_rootRule isDark)).append
      (opens_of_notMem (by decide))).append rules

end Theme

theorem IsCode.opens {s : String} (h : IsCode s) : Opens comparison s.toList :=
  opens_of_notMem fun hm => absurd (h '<' hm) (by decide)

namespace DocumentScript

theorem isCode_configuration (appName : String) (timeout : Nat) (pages : List RenderedPage) :
    IsCode (configuration appName timeout pages).render := by
  have keys : IsCode "appName" ∧ IsCode "bridgeTimeoutMs" ∧ IsCode "initialPage" := by decide
  refine isCode_record (List.forall_mem_cons.2 ⟨⟨keys.1, isCode_text appName⟩,
    List.forall_mem_cons.2 ⟨⟨keys.2.1, isCode_number _⟩,
      List.forall_mem_singleton.2 ⟨keys.2.2, ?_⟩⟩⟩)
  cases pages with
  | nil => decide
  | cons page pages => exact isCode_text page.id

theorem isCode_pageLine (p : RenderedPage) : IsCode (pageLine p) := by
  have code : ∀ s, IsCode (Escape.literal s) := isCode_literal
  exact ((((((code _).append (by decide)).append (code _)).append (by decide)).append
    (code _)).append (by decide))

theorem opens_pageTable (pages : List RenderedPage) :
    ∀ line ∈ pageTable pages, Opens comparison line.toList := by
  rw [pageTable]
  split
  · exact List.forall_mem_singleton.2 (opens_of_notMem (by decide))
  · simp only [List.forall_mem_append, List.forall_mem_map, List.forall_mem_singleton]
    exact ⟨⟨opens_of_notMem (by decide),
      fun p _ => opens_indented (isCode_pageLine p).opens 1⟩, opens_of_notMem (by decide)⟩

theorem opens_text (appName : String) (timeout : Nat) (pages : List RenderedPage) :
    Opens comparison (text appName timeout pages).toList := by
  have configuration : IsCode (configurationLine appName timeout pages) :=
    (IsCode.append (by decide) (isCode_configuration appName timeout pages)).append (by decide)
  have blank : ∀ line ∈ [""], Opens comparison line.toList :=
    List.forall_mem_singleton.2 (opens_of_notMem (by decide))
  refine opens_finishLines unbroken_comparison ?_
  simp only [List.forall_mem_append]
  refine ⟨⟨⟨⟨⟨?_, opens_pageTable pages⟩, blank⟩, opens_bridgeScript⟩, blank⟩,
    opens_interactionScript⟩
  exact List.forall_mem_cons.2 ⟨opens_of_notMem (by decide), List.forall_mem_cons.2
    ⟨opens_of_notMem (by decide), List.forall_mem_singleton.2 configuration.opens⟩⟩

end DocumentScript

end MiniApp

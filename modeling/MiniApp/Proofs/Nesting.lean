import MiniApp.Proofs.Jsx.OneLine
import MiniApp.Proofs.Jsx.Outline
import MiniApp.Proofs.Markup.OneLine
import MiniApp.Proofs.Source.Prerendered

set_option autoImplicit false

namespace MiniApp

theorem return_notMem_shown {tag : List Char} (ht : '\r' ∉ tag) {cs : List Char} (hc : '\r' ∉ cs) :
    '\r' ∉ (Text.joinBreaks cs).flatMap (Escape.showBreak tag) := by
  rw [List.mem_flatMap]
  rintro ⟨c, joined, hm⟩
  have written : c ∈ cs := (Text.joinBreaks_sublist cs).subset joined
  rw [Escape.showBreak] at hm
  split at hm
  · exact ht hm
  · exact hc (List.mem_singleton.1 hm ▸ written)

theorem Markup.return_notMem_text {s : String} (h : '\r' ∉ s.toList) :
    '\r' ∉ (Markup.text s).toList := by
  rw [Markup.text, String.toList_ofList, Escape.markup, Escape.toList_each]
  exact return_notMem_shown (by decide) (Parse.keepsBreaks_markupChar.return_notMem h)

theorem Jsx.return_notMem_text {s : String} (h : '\r' ∉ s.toList) : '\r' ∉ (Jsx.text s).toList := by
  rw [Jsx.text, String.toList_ofList, Escape.jsx, Escape.toList_each]
  exact return_notMem_shown (by decide) (Jsx.keepsBreaks_jsxChar.return_notMem h)

/-- A child that is rendered first is placed like one that is not, at any level, and so are any
elements at any depth, in whichever order they are rendered. -/
theorem nests_text :
    Markup.dialect.NestsText Markup.UnbrokenHead ∧ Jsx.dialect.NestsText Jsx.UnbrokenHead :=
  ⟨Markup.onOneLine_unbroken.nestsText fun _ => Markup.return_notMem_text,
    Jsx.onOneLine_unbroken.nestsText fun _ => Jsx.return_notMem_text⟩

def sampleCard : Markup.Tree :=
  .element ⟨"div", false, ["card"], [("onclick", .script "go()")], []⟩
    [.raw "<p>a</p>\n\n  \n  <p>b</p>", .text ""]

theorem nests_text_card :
    sampleCard.ReturnFree Markup.UnbrokenHead ∧
      Tree.write Markup.dialect (.element ⟨"main", false, [], [], []⟩
          ([.text "\r"] ++ Tree.raws [Tree.render Markup.dialect sampleCard] ++ [.raw "<hr>"]))
          ⟨["<body>"], 3⟩ =
        Tree.write Markup.dialect (.element ⟨"main", false, [], [], []⟩
          ([.text "\r"] ++ sampleCard :: [.raw "<hr>"])) ⟨["<body>"], 3⟩ := by
  have unbroken : Markup.UnbrokenHead ⟨"div", false, ["card"], [("onclick", .script "go()")], []⟩ :=
    ⟨by decide, List.forall_mem_singleton.2 ⟨by decide, by rintro _ ⟨⟩; decide⟩⟩
  have free : sampleCard.ReturnFree Markup.UnbrokenHead := by
    refine .element unbroken (List.forall_mem_cons.2 ⟨.raw (by decide), ?_⟩)
    exact List.forall_mem_singleton.2 (.text (by decide))
  exact ⟨free, nests_text.1.child free _ _ _ _⟩

end MiniApp

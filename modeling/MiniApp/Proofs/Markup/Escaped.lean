import MiniApp.Proofs.Markup.Reader
import MiniApp.Source.Markup

set_option autoImplicit false

namespace MiniApp.Markup

open Scanner (scan_append scan_gathered scan_quiet scan_shown)

section Text

theorem scan_markupChar (c : Char) :
    Scanner.scan step .text (Escape.markupChar c) = some (.text, []) := by
  unfold Escape.markupChar
  split
  iterate 5 rfl
  · next _ amp lt gt quot apos =>
    exact scan_quiet (by rw [step, if_neg lt, if_neg gt, if_neg amp]) []

theorem count_markupChar (c : Char) :
    (Escape.markupChar c).count '\n' = [c].count '\n' := by
  unfold Escape.markupChar
  split <;> rfl

def lineBreak : Tag := .opening "br" []

theorem scan_text (s : String) :
    Scanner.scan step .text (text s).toList =
      some (.text, List.replicate (s.toList.count '\n') lineBreak) := by
  rw [text, String.toList_ofList, Escape.markup, Escape.toList_each]
  exact scan_shown breaksIn_text scan_markupChar count_markupChar rfl s.toList

end Text

section Values

variable (tag : StartTag) (name : List Char)

theorem scan_attributeChar (value : List Char) (c : Char) :
    Scanner.scan step (.value tag name value) (Escape.attributeChar c) =
      some (.value tag name (value ++ [c]), []) := by
  unfold Escape.attributeChar
  split
  iterate 3 rfl
  · next _ lf cr tab =>
    unfold Escape.markupChar
    split
    iterate 5 rfl
    · next _ amp lt gt quot apos => simp_all [Scanner.scan, step]

def isCodeChar (c : Char) : Bool := c != '<' && c != '\n' && c != '\r'

theorem scan_codeChar (value : List Char) {c : Char} (hc : isCodeChar c = true) :
    Scanner.scan step (.value tag name value) (codeChar c) =
      some (.value tag name (value ++ [c]), []) := by
  unfold codeChar
  split
  iterate 2 rfl
  · next _ amp quot => simp_all [Scanner.scan, step, isCodeChar]

theorem scan_quoted {f : Char → List Char} (cs : List Char)
    (hf : ∀ c ∈ cs, ∀ value, Scanner.scan step (.value tag name value) (f c) =
      some (.value tag name (value ++ [c]), [])) :
    Scanner.scan step (.valueStart tag name) ('"' :: (cs.flatMap f ++ ['"'])) =
      some (.valueEnd (tag.add name (some cs)), []) := by
  rw [scan_quiet rfl]
  exact scan_append (scan_gathered _ cs hf []) rfl

end Values

end MiniApp.Markup

import MiniApp.Proofs.Jsx.Reader
import MiniApp.Source.Jsx

set_option autoImplicit false

namespace MiniApp.Jsx

open Scanner

theorem isMarkupChar_eq_false {c : Char} (lt : c ≠ '<') (gt : c ≠ '>') (opens : c ≠ '{')
    (closes : c ≠ '}') : isMarkupChar c = false := by
  simp [isMarkupChar, lt, gt, opens, closes]

section Text

theorem scan_jsxChar (c : Char) : scan step .text (Escape.jsxChar c) = some (.text, []) := by
  unfold Escape.jsxChar
  split
  iterate 2 rfl
  · next _ opens closes =>
    unfold Escape.markupChar
    split
    iterate 5 rfl
    · next _ amp lt gt quot apos =>
      have plain := isMarkupChar_eq_false lt gt opens closes
      refine scan_quiet ?_ []
      rw [step, if_neg lt, if_neg (by simp [plain]), if_neg amp]

theorem count_jsxChar (c : Char) : (Escape.jsxChar c).count '\n' = [c].count '\n' := by
  unfold Escape.jsxChar
  split
  iterate 2 rfl
  · unfold Escape.markupChar
    split <;> rfl

def lineBreak : Tag := .selfClosing "br" []

theorem scan_text (s : String) :
    scan step .text (text s).toList =
      some (.text, List.replicate (s.toList.count '\n') lineBreak) := by
  rw [text, String.toList_ofList, Escape.jsx, Escape.toList_each]
  exact scan_shown breaksIn_text scan_jsxChar count_jsxChar rfl s.toList

end Text

section Values

variable (tag : StartTag) (name : List Char)

theorem scan_value_jsxChar (value : List Char) {c : Char} (hc : ¬ (c = '\n' ∨ c = '\r')) :
    scan step (.value tag name value) (Escape.jsxChar c) =
      some (.value tag name (value ++ [c]), []) := by
  unfold Escape.jsxChar
  split
  iterate 2 rfl
  · next _ opens closes =>
    unfold Escape.markupChar
    split
    iterate 5 rfl
    · next _ amp lt gt quot apos =>
      have plain := isMarkupChar_eq_false lt gt opens closes
      refine scan_quiet ?_ []
      rw [step, if_neg quot, if_neg amp, if_neg (by simpa [plain] using hc)]

theorem scan_string {cs : List Char} (hcs : ∀ c ∈ cs, ¬ (c = '\n' ∨ c = '\r')) :
    scan step (.valueStart tag name) ('"' :: (cs.flatMap Escape.jsxChar ++ ['"'])) =
      some (.valueEnd (tag.add name (.text (String.ofList cs))), []) := by
  rw [scan_quiet rfl]
  exact scan_append
    (scan_gathered _ cs (fun c hc value => scan_value_jsxChar tag name value (hcs c hc)) []) rfl

theorem scan_run {m m' : Code.Mode} {cs : List Char} (h : Code.run m cs = some m') :
    scan step (.expr tag name m) cs = some (.expr tag name m', []) := by
  induction cs generalizing m with
  | nil =>
    cases h
    rfl
  | cons c cs ih =>
    rw [Code.run, List.foldlM_cons] at h
    obtain ⟨m₁, hstep, hs⟩ := Option.bind_eq_some_iff.1 h
    have here : step (.expr tag name m) c = some (.expr tag name m₁, []) := by
      simp only [step, hstep]
    rw [scan_quiet here]
    exact ih hs

theorem scan_braced {code : String} {tokens : List Code.Token} (h : Code.Reads code tokens) :
    scan step (.valueStart tag name) (braced code).toList =
      some (.valueEnd (tag.add name (.expr tokens)), []) := by
  have written : (braced code).toList = '{' :: (code.toList ++ ['}']) := by simp [braced]
  rw [written, scan_quiet rfl]
  exact scan_append (scan_run tag name h.run_start) rfl

end Values

end MiniApp.Jsx

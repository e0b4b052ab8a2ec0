import Mathlib.Data.List.TakeWhile
import Mathlib.Tactic.Common
import Mathlib.Tactic.SplitIfs
import MiniApp.Escape
import MiniApp.Source.Writer

/-!
Readers of generated source, as machines that go from mode to mode with each character and now and
then complete a part. A reader that meets line breaks in one mode alone, where breaks and blanks
change nothing, reads a fragment in the same way wherever it is placed: cut into lines, moved right,
and put between others.
-/

set_option autoImplicit false

namespace MiniApp.Scanner

variable {μ τ : Type}

/-- One character: the next mode, and the parts that it completes. -/
abbrev Step (μ τ : Type) := μ → Char → Option (μ × List τ)

/-- The mode after some characters, and the parts that they complete. -/
def scan (step : Step μ τ) : μ → List Char → Option (μ × List τ)
  | m, [] => some (m, [])
  | m, c :: cs =>
    match step m c with
    | none => none
    | some (m', out) => (scan step m' cs).map fun r => (r.1, out ++ r.2)

/-- Line breaks are read in one mode alone, where they and blanks change nothing. -/
structure BreaksIn (step : Step μ τ) (text : μ) : Prop where
  only : ∀ {m m' : μ} {c : Char} {out : List τ}, c = '\n' ∨ c = '\r' →
    step m c = some (m', out) → m = text ∧ m' = text ∧ out = []
  quiet : ∀ {c : Char}, c = '\n' ∨ c = '\r' ∨ c = ' ' → step text c = some (text, [])

section Steps

variable {step : Step μ τ} {m m' m'' : μ} {c : Char} {cs as bs : List Char}
  {out parts others : List τ}

theorem scan_cons (hc : step m c = some (m', out)) (hs : scan step m' cs = some (m'', parts)) :
    scan step m (c :: cs) = some (m'', out ++ parts) := by
  simp only [scan, hc, hs, Option.map_some]

theorem scan_quiet (hc : step m c = some (m', [])) (cs : List Char) :
    scan step m (c :: cs) = scan step m' cs := by
  simp only [scan, hc]
  cases scan step m' cs <;> rfl

theorem scan_cons_inv (h : scan step m (c :: cs) = some (m'', parts)) :
    ∃ m' out rest, step m c = some (m', out) ∧ scan step m' cs = some (m'', rest) ∧
      parts = out ++ rest := by
  rw [scan] at h
  split at h
  · cases h
  · next m' out hc =>
    obtain ⟨⟨m₁, rest⟩, hs, heq⟩ := Option.map_eq_some_iff.1 h
    cases heq
    exact ⟨m', out, rest, hc, hs, rfl⟩

theorem scan_append (ha : scan step m as = some (m', parts))
    (hb : scan step m' bs = some (m'', others)) :
    scan step m (as ++ bs) = some (m'', parts ++ others) := by
  induction as generalizing m parts with
  | nil =>
    rw [scan] at ha
    cases ha
    exact hb
  | cons c as ih =>
    obtain ⟨m₁, out, rest, hc, hs, rfl⟩ := scan_cons_inv ha
    rw [List.append_assoc]
    exact scan_cons hc (ih hs)

theorem scan_gathered (mode : List Char → μ) {f : Char → List Char} (cs : List Char)
    (hf : ∀ c ∈ cs, ∀ gathered, scan step (mode gathered) (f c) =
      some (mode (gathered ++ [c]), []))
    (gathered : List Char) :
    scan step (mode gathered) (cs.flatMap f) = some (mode (gathered ++ cs), []) := by
  induction cs generalizing gathered with
  | nil => simp [scan]
  | cons c cs ih =>
    have rest := ih (fun d hd => hf d (List.mem_cons_of_mem _ hd)) (gathered ++ [c])
    have all := scan_append (hf c List.mem_cons_self gathered) rest
    rwa [List.append_assoc, List.singleton_append] at all

theorem scan_word (mode : List Char → μ) {p : Char → Bool}
    (hp : ∀ c gathered, p c = true → step (mode gathered) c = some (mode (gathered ++ [c]), []))
    (word : List Char) (h : word.all p = true) (gathered : List Char) :
    scan step (mode gathered) word = some (mode (gathered ++ word), []) := by
  have all := scan_gathered mode (f := fun c => [c]) word
    (fun c hc gathered => scan_quiet (hp c gathered (List.all_eq_true.1 h c hc)) []) gathered
  rwa [List.flatMap_singleton'] at all

section Words

variable {start : μ} (mode : List Char → μ) {p : Char → Bool}
  (hp : ∀ c gathered, p c = true → step (mode gathered) c = some (mode (gathered ++ [c]), []))
include hp

theorem scan_led (led : step m c = some (mode [], [])) (word : List Char)
    (h : word.all p = true) : scan step m (c :: word) = some (mode word, []) := by
  rw [scan_quiet led, scan_word mode hp word h [], List.nil_append]

/-- A mode that is entered by the first character of a word. -/
theorem scan_begun (first : ∀ c, p c = true → step start c = some (mode [c], []))
    {word : List Char} (shows : word ≠ []) (h : word.all p = true) :
    scan step start word = some (mode word, []) := by
  obtain ⟨c, cs, rfl⟩ := List.exists_cons_of_ne_nil shows
  rw [List.all_cons, Bool.and_eq_true] at h
  rw [scan_quiet (first c h.1)]
  exact scan_word mode hp cs h.2 [c]

end Words

end Steps

section Lines

variable {step : Step μ τ} {text m m' : μ} {parts others : List τ} (breaks : BreaksIn step text)
include breaks

theorem scan_break {c : Char} {cs : List Char} (hc : c = '\n' ∨ c = '\r')
    (h : scan step m (c :: cs) = some (m', parts)) :
    m = text ∧ scan step text cs = some (m', parts) := by
  obtain ⟨m₁, out, rest, hstep, hs, rfl⟩ := scan_cons_inv h
  obtain ⟨rfl, rfl, rfl⟩ := breaks.only hc hstep
  exact ⟨rfl, hs⟩

theorem scan_text_newline (cs : List Char) : scan step text ('\n' :: cs) = scan step text cs :=
  scan_quiet (breaks.quiet (.inl rfl)) cs

theorem scan_text_blanks (n : Nat) (cs : List Char) :
    scan step text (List.replicate n ' ' ++ cs) = scan step text cs := by
  induction n with
  | zero => rfl
  | succ n ih =>
    rw [List.replicate_succ, List.cons_append, scan_quiet (breaks.quiet (.inr (.inr rfl))), ih]

theorem scan_indented (level : Nat) (line : String) (cs : List Char) :
    scan step text ((indented level line).toList ++ cs) = scan step text (line.toList ++ cs) := by
  rw [indented]
  split
  · next h => rw [h]
  · rw [String.toList_append, spaces, String.toList_ofList, List.append_assoc,
      scan_text_blanks breaks]

def lineChars (lines : List String) : List Char := lines.flatMap fun line => line.toList ++ ['\n']

omit breaks in
theorem lineChars_cons (line : String) (lines : List String) :
    lineChars (line :: lines) = line.toList ++ '\n' :: lineChars lines := by
  rw [lineChars, List.flatMap_cons, List.append_assoc, List.singleton_append, lineChars]

omit breaks in
theorem scan_lineChars_append {ls ls' : List String}
    (h : scan step text (lineChars ls) = some (text, parts))
    (h' : scan step text (lineChars ls') = some (text, others)) :
    scan step text (lineChars (ls ++ ls')) = some (text, parts ++ others) := by
  rw [lineChars, List.flatMap_append]
  exact scan_append h h'

theorem scan_line {line : String} (h : scan step text line.toList = some (text, parts))
    (level : Nat) : scan step text (lineChars [indented level line]) = some (text, parts) := by
  have ended : scan step text ['\n'] = some (text, []) := scan_text_newline breaks []
  have all := scan_append h ended
  rw [lineChars, List.flatMap_singleton, scan_indented breaks]
  rwa [List.append_nil] at all

section Moved

variable {f : String → String} (moved : ∀ (line : String) (cs : List Char),
  scan step text ((f line).toList ++ cs) = scan step text (line.toList ++ cs))
include moved

/-- The lines of a text read on from any mode as the text does; those after the first may be
moved. -/
theorem scan_lines (cs : List Char) (h : scan step m cs = some (text, parts)) :
    match Text.lines cs with
    | [] => m = text ∧ parts = []
    | line :: rest =>
      scan step m (line ++ '\n' :: lineChars (rest.map fun l => f (String.ofList l))) =
        some (text, parts) := by
  induction cs generalizing m parts with
  | nil =>
    rw [scan] at h
    cases h
    exact ⟨rfl, rfl⟩
  | cons c cs ih =>
    rw [Text.lines_cons]
    split_ifs with hlf hcr
    · obtain ⟨rfl, hcs⟩ := scan_break breaks (.inl hlf) h
      have rest := ih hcs
      change scan step m ('\n' :: lineChars ((Text.lines cs).map fun l => f (String.ofList l))) = _
      rw [scan_text_newline breaks]
      cases hl : Text.lines cs with
      | nil =>
        rw [hl] at rest
        rw [rest.2]
        rfl
      | cons line more =>
        rw [hl] at rest
        rw [List.map_cons, lineChars_cons, moved, String.toList_ofList]
        exact rest
    · obtain ⟨rfl, hcs⟩ := scan_break breaks (.inr hcr.1) h
      exact ih hcs
    · obtain ⟨m', out, parts', hstep, hcs, rfl⟩ := scan_cons_inv h
      have rest := ih hcs
      cases hl : Text.lines cs with
      | nil =>
        rw [hl] at rest
        obtain ⟨rfl, rfl⟩ := rest
        exact scan_cons hstep (scan_text_newline breaks [])
      | cons line more =>
        rw [hl] at rest
        exact scan_cons hstep rest

theorem scan_linesOf {fragment : String}
    (h : scan step text fragment.toList = some (text, parts)) :
    scan step text (lineChars ((Text.linesOf fragment).map f)) = some (text, parts) := by
  have all := scan_lines breaks moved fragment.toList h
  rw [Text.linesOf, List.map_map]
  cases hl : Text.lines fragment.toList with
  | nil =>
    rw [hl] at all
    rw [all.2]
    rfl
  | cons line rest =>
    rw [hl] at all
    rw [List.map_cons, lineChars_cons, Function.comp_apply, moved, String.toList_ofList]
    exact all

end Moved

theorem scan_blockLines {fragment : String}
    (h : scan step text fragment.toList = some (text, parts)) (level : Nat) :
    scan step text (lineChars (blockLines level fragment)) = some (text, parts) :=
  scan_linesOf breaks (scan_indented breaks level) h

theorem scan_text_breaks {ends : List Char} (hb : ∀ c ∈ ends, c = '\n') :
    scan step text ends = some (text, []) := by
  induction ends with
  | nil => rfl
  | cons c ends ih =>
    rw [List.forall_mem_cons] at hb
    rw [hb.1, scan_text_newline breaks, ih hb.2]

theorem scan_of_append_breaks {cs : List Char} (ends : List Char) (hb : ∀ c ∈ ends, c = '\n')
    (h : scan step m (cs ++ ends) = some (text, parts)) : scan step m cs = some (text, parts) := by
  induction cs generalizing m parts with
  | nil =>
    rw [List.nil_append] at h
    cases ends with
    | nil => exact h
    | cons c ends =>
      obtain ⟨rfl, -⟩ := scan_break breaks (.inl (hb c List.mem_cons_self)) h
      rw [scan_text_breaks breaks hb] at h
      cases h
      rfl
  | cons c cs ih =>
    obtain ⟨m', out, rest, hstep, hs, rfl⟩ := scan_cons_inv h
    exact scan_cons hstep (ih hs)

theorem scan_finishLines {lines : List String}
    (h : scan step text (lineChars lines) = some (text, parts)) :
    scan step text (finishLines lines).toList = some (text, parts) := by
  have written : (String.join (lines.map (· ++ "\n"))).toList = lineChars lines := by
    simp [lineChars, List.flatMap_map]
  rw [finishLines, written, String.toList_ofList]
  refine scan_of_append_breaks breaks ((lineChars lines).reverse.takeWhile (· == '\n')).reverse
    ?_ ?_
  · intro c hc
    simpa using List.mem_takeWhile_imp (List.mem_reverse.1 hc)
  · rwa [← List.reverse_append, List.takeWhile_append_dropWhile, List.reverse_reverse]

theorem scan_joinLines {lines : List String}
    (h : scan step text (lineChars lines) = some (text, parts)) :
    scan step text ("\n".intercalate lines).toList = some (text, parts) := by
  by_cases none : lines = []
  · subst none
    exact h
  have written : ("\n".intercalate lines).toList ++ ['\n'] = lineChars lines := by
    clear h
    induction lines with
    | nil => exact absurd rfl none
    | cons line rest ih =>
      cases rest with
      | nil => simp [lineChars]
      | cons next rest =>
        rw [lineChars_cons line, String.intercalate_cons_cons, String.toList_append,
          String.toList_append, List.append_assoc, ih (List.cons_ne_nil _ _), List.append_assoc]
        rfl
  exact scan_of_append_breaks breaks ['\n'] (fun _ hc => List.mem_singleton.1 hc) (written ▸ h)

theorem scan_indentBlock (blank : ∀ c, Text.isBlank c = true → step text c = some (text, []))
    {fragment : String} (h : scan step text fragment.toList = some (text, parts)) (width : Nat) :
    scan step text (indentBlock fragment width).toList = some (text, parts) := by
  refine scan_joinLines breaks (scan_linesOf breaks (fun line cs => ?_) h)
  split
  · next silent =>
    have skipped (ls : List Char) (hl : ls.all Text.isBlank = true) :
        scan step text (ls ++ cs) = scan step text cs := by
      induction ls with
      | nil => rfl
      | cons c ls ih =>
        rw [List.all_cons, Bool.and_eq_true] at hl
        rw [List.cons_append, scan_quiet (blank c hl.1), ih hl.2]
    exact (skipped line.toList silent).symm
  · rw [String.toList_append, spaces, String.toList_ofList, List.append_assoc,
      scan_text_blanks breaks]

theorem scan_intercalate {fs : List String} {read : String → List τ}
    (h : ∀ f ∈ fs, scan step text f.toList = some (text, read f)) :
    scan step text ("\n".intercalate fs).toList = some (text, fs.flatMap read) := by
  induction fs with
  | nil => rfl
  | cons f fs ih =>
    rw [List.forall_mem_cons] at h
    cases fs with
    | nil => simpa using h.1
    | cons f' fs =>
      rw [String.intercalate_cons_cons, String.toList_append, String.toList_append,
        List.append_assoc]
      refine scan_append h.1 ?_
      change scan step text ('\n' :: _) = _
      rw [scan_text_newline breaks]
      exact ih h.2

theorem scan_showBreak {br : List Char} {part : τ} (hbr : scan step text br = some (text, [part]))
    (cs : List Char) (h : scan step m cs = some (m', [])) :
    scan step m ((Text.joinBreaks cs).flatMap (Escape.showBreak br)) =
      some (m', List.replicate (cs.count '\n') part) := by
  induction cs using Text.joinBreaks.induct generalizing m with
  | case1 => exact h
  | case2 cs ih =>
    obtain ⟨rfl, hlf⟩ := scan_break breaks (.inr rfl) h
    obtain ⟨-, hcs⟩ := scan_break breaks (.inl rfl) hlf
    have rest := scan_append hbr (ih hcs)
    simpa [Text.joinBreaks, Escape.showBreak, List.replicate_succ] using rest
  | case3 c cs hnot ih =>
    rw [Text.joinBreaks.eq_3 c cs hnot, List.flatMap_cons]
    by_cases hc : c = '\n'
    · subst hc
      obtain ⟨rfl, hcs⟩ := scan_break breaks (.inl rfl) h
      have rest := scan_append hbr (ih hcs)
      simpa [Escape.showBreak, List.replicate_succ] using rest
    · obtain ⟨m₁, out, rest, hstep, hs, heq⟩ := scan_cons_inv h
      obtain ⟨rfl, rfl⟩ := List.append_eq_nil_iff.1 heq.symm
      rw [Escape.showBreak, if_neg hc, List.count_cons_of_ne hc]
      exact scan_cons hstep (ih hs)

theorem scan_shown {f : Char → List Char} (hf : ∀ c, scan step text (f c) = some (text, []))
    (kept : ∀ c, (f c).count '\n' = [c].count '\n') {br : List Char} {part : τ}
    (hbr : scan step text br = some (text, [part])) (cs : List Char) :
    scan step text ((Text.joinBreaks (cs.flatMap f)).flatMap (Escape.showBreak br)) =
      some (text, List.replicate (cs.count '\n') part) := by
  have escaped : scan step text (cs.flatMap f) = some (text, []) := by
    induction cs with
    | nil => rfl
    | cons c cs ih => exact scan_append (hf c) ih
  have counted : (cs.flatMap f).count '\n' = cs.count '\n' := by
    clear escaped
    induction cs with
    | nil => rfl
    | cons c cs ih =>
      rw [List.flatMap_cons, List.count_append, ih, kept, ← List.count_append]
      rfl
  rw [scan_showBreak breaks hbr _ escaped, counted]

end Lines

end MiniApp.Scanner

import Mathlib.Tactic.Common
import Mathlib.Tactic.SplitIfs
import MiniApp.Escape

/-!
A strict reader of expressions. String literals in single quotes are read as units, with their
escapes decoded; outside of them brackets are closed in the opposite order in which they are opened,
and nothing stands there that could start another kind of quote, a comment or markup.
-/

set_option autoImplicit false

namespace MiniApp.Code

/-- A character outside of literals, or a literal with the text that it stands for. -/
inductive Token where
  | char (c : Char)
  | literal (value : String)
deriving DecidableEq

/-- The closing brackets that are waited for, the next one first, and what has been read. -/
structure State where
  awaited : List Char
  read : List Token
deriving DecidableEq

def State.add (s : State) (t : Token) : State := { s with read := s.read ++ [t] }

inductive Mode where
  | code (s : State)
  | literal (s : State) (text : List Char)
  | escape (s : State) (text : List Char)
  | unicode (s : State) (text : List Char) (digits value : Nat)
deriving DecidableEq

def brackets : List (Char × Char) := [('(', ')'), ('[', ']'), ('{', '}')]

def isClosing (c : Char) : Bool := brackets.any fun b => b.2 == c

/-- Outside of literals these would start another kind of quote, a comment, an escape or markup. -/
def foreign : List Char := ['"', '\x60', '/', '\\', '<', '\n', '\r']

def escapes : List (Char × Char) := [('\\', '\\'), ('n', '\n'), ('r', '\r'), ('t', '\t')]

def hexValue? (c : Char) : Option Nat :=
  if c.isDigit then some (c.toNat - 48)
  else if 'A' ≤ c ∧ c ≤ 'F' then some (c.toNat - 55)
  else none

def stepCode (s : State) (c : Char) : Option Mode :=
  if c = '\'' then some (.literal s [])
  else if isClosing c then
    match s.awaited with
    | [] => none
    | closing :: awaited =>
      if c = closing then some (.code (State.add ⟨awaited, s.read⟩ (.char c))) else none
  else if foreign.contains c then none
  else
    match brackets.lookup c with
    | some closing => some (.code (State.add ⟨closing :: s.awaited, s.read⟩ (.char c)))
    | none => some (.code (s.add (.char c)))

def step : Mode → Char → Option Mode
  | .code s, c => stepCode s c
  | .literal s text, c =>
    if c = '\'' then some (.code (s.add (.literal (String.ofList text))))
    else if c = '\\' then some (.escape s text)
    else if c = '\n' ∨ c = '\r' then none
    else some (.literal s (text ++ [c]))
  | .escape s text, c =>
    if c = 'u' then some (.unicode s text 0 0)
    else (escapes.lookup c).map fun d => .literal s (text ++ [d])
  | .unicode s text digits value, c =>
    (hexValue? c).map fun d =>
      if digits = 3 then .literal s (text ++ [Char.ofNat (16 * value + d)])
      else .unicode s text (digits + 1) (16 * value + d)

def run (m : Mode) (cs : List Char) : Option Mode := cs.foldlM step m

/-- What has been read, when no bracket and no literal is open. -/
def Mode.complete? : Mode → Option (List Token)
  | .code ⟨[], read⟩ => some read
  | _ => none

def start : Mode := .code ⟨[], []⟩

/-- What an expression is made of, when it leaves nothing open. -/
def read? (code : String) : Option (List Token) := (run start code.toList).bind Mode.complete?

/-- A piece of code is read as some tokens and leads from some awaited brackets to others. -/
def Leads (code : String) (before after : List Char) (tokens : List Token) : Prop :=
  ∀ awaited read, run (.code ⟨before ++ awaited, read⟩) code.toList =
    some (.code ⟨after ++ awaited, read ++ tokens⟩)

/-- A piece of code that is balanced in itself is read as some tokens. -/
def Reads (code : String) (tokens : List Token) : Prop := Leads code [] [] tokens

def chars (code : String) : List Token := code.toList.map .char

theorem step_break {c : Char} (hc : c = '\n' ∨ c = '\r') (m : Mode) : step m c = none := by
  cases m <;> rcases hc with rfl | rfl <;> rfl

theorem run_append {m m' : Mode} {as : List Char} (h : run m as = some m') (bs : List Char) :
    run m (as ++ bs) = run m' bs := by
  rw [run, List.foldlM_append, ← run, h]
  rfl

theorem run_cons {m m' : Mode} {c : Char} (h : step m c = some m') (cs : List Char) :
    run m (c :: cs) = run m' cs := by
  rw [run, List.foldlM_cons, h]
  rfl

section Frame

def State.under (awaited : List Char) (read : List Token) (s : State) : State :=
  ⟨s.awaited ++ awaited, read ++ s.read⟩

def Mode.under (awaited : List Char) (read : List Token) : Mode → Mode
  | .code s => .code (s.under awaited read)
  | .literal s text => .literal (s.under awaited read) text
  | .escape s text => .escape (s.under awaited read) text
  | .unicode s text digits value => .unicode (s.under awaited read) text digits value

variable (awaited : List Char) (read : List Token)

theorem State.add_under (s : State) (t : Token) :
    (s.under awaited read).add t = (s.add t).under awaited read := by
  simp [add, under]

theorem stepCode_under {s : State} {c : Char} {m : Mode} (h : stepCode s c = some m) :
    stepCode (s.under awaited read) c = some (m.under awaited read) := by
  rw [stepCode] at h ⊢
  split_ifs at h ⊢ with quote closing foreign
  · cases h
    rfl
  · obtain ⟨_ | ⟨first, rest⟩, before⟩ := s
    · cases h
    · simp only [State.under, List.cons_append] at h ⊢
      split_ifs at h ⊢
      cases h
      simp [Mode.under, State.add, State.under]
  · cases hb : brackets.lookup c <;> rw [hb] at h <;> cases h <;>
      simp [Mode.under, State.add, State.under]

theorem step_under {m m' : Mode} {c : Char} (h : step m c = some m') :
    step (m.under awaited read) c = some (m'.under awaited read) := by
  cases m with
  | code s => exact stepCode_under awaited read h
  | literal s text =>
    simp only [step, Mode.under] at h ⊢
    split_ifs at h ⊢ <;> cases h <;> simp [State.add_under]
  | escape s text =>
    simp only [step, Mode.under] at h ⊢
    split_ifs at h ⊢
    · cases h
      rfl
    · obtain ⟨d, hd, rfl⟩ := Option.map_eq_some_iff.1 h
      rw [hd]
      rfl
  | unicode s text digits value =>
    obtain ⟨d, hd, rfl⟩ := Option.map_eq_some_iff.1 h
    simp only [step, Mode.under, hd, Option.map_some]
    split <;> rfl

theorem run_under {m m' : Mode} {cs : List Char} (h : run m cs = some m') :
    run (m.under awaited read) cs = some (m'.under awaited read) := by
  induction cs generalizing m with
  | nil =>
    cases h
    rfl
  | cons c cs ih =>
    rw [run, List.foldlM_cons] at h
    obtain ⟨m₁, hstep, hs⟩ := Option.bind_eq_some_iff.1 h
    rw [run_cons (step_under awaited read hstep)]
    exact ih hs

end Frame

/-- Code that is read from some awaited brackets on is read so with more of them. -/
theorem leads_of_run {code : String} {before after : List Char} {tokens : List Token}
    (h : run (.code ⟨before, []⟩) code.toList = some (.code ⟨after, tokens⟩)) :
    Leads code before after tokens := by
  intro awaited read
  have framed := run_under awaited read h
  simpa only [Mode.under, State.under, List.append_nil] using framed

section Leads

variable {a b : String} {p q r : List Char} {ts us : List Token}

theorem Leads.append (ha : Leads a p q ts) (hb : Leads b q r us) : Leads (a ++ b) p r (ts ++ us) := by
  intro awaited read
  rw [String.toList_append, run_append (ha awaited read), hb, List.append_assoc]

theorem Reads.leads (h : Reads a ts) (p : List Char) : Leads a p p ts := fun awaited read => by
  simpa using h (p ++ awaited) read

theorem Reads.append (ha : Reads a ts) (hb : Reads b us) : Reads (a ++ b) (ts ++ us) :=
  Leads.append ha hb

theorem reads_empty : Reads "" [] := fun awaited read => by simp [run]

theorem Reads.run_start (h : Reads a ts) : run start a.toList = some (.code ⟨[], ts⟩) := h [] []

theorem Reads.read?_eq (h : Reads a ts) : read? a = some ts := by
  rw [read?, h.run_start]
  rfl

end Leads

theorem reads_of_read? {code : String} {tokens : List Token} (h : read? code = some tokens) :
    Reads code tokens := by
  obtain ⟨m, hrun, hm⟩ := Option.bind_eq_some_iff.1 h
  unfold Mode.complete? at hm
  split at hm
  · cases hm
    exact leads_of_run hrun
  · cases hm

def specials : List Char := '\'' :: (foreign ++ brackets.flatMap fun b => [b.1, b.2])

def isInert (c : Char) : Bool := decide (c ∉ specials)

theorem isInert_of_isDigit {c : Char} (h : c.isDigit = true) : isInert c = true := by
  have plain : (specials.all fun c => !c.isDigit) = true := by decide
  refine decide_eq_true fun hc => ?_
  simpa [h] using List.all_eq_true.1 plain c hc

theorem stepCode_of_isInert {c : Char} (h : isInert c = true) (s : State) :
    stepCode s c = some (.code (s.add (.char c))) := by
  simp only [isInert, decide_eq_true_eq, specials, foreign, brackets, List.flatMap_cons,
    List.flatMap_nil, List.cons_append, List.nil_append, List.mem_cons, List.not_mem_nil, or_false,
    not_or] at h
  simp [stepCode, isClosing, foreign, brackets, List.lookup_cons, beq_eq_decide, h, Ne.symm]

/-- Code that neither opens nor closes anything. -/
def Inert (code : String) : Prop := ∀ c ∈ code.toList, isInert c = true

instance (code : String) : Decidable (Inert code) :=
  decidable_of_iff (code.toList.all isInert = true) List.all_eq_true

theorem reads_chars {code : String} (h : Inert code) : Reads code (chars code) := by
  rw [Reads, Leads, chars]
  rw [Inert] at h
  generalize code.toList = cs at h
  induction cs with
  | nil => simp [run]
  | cons c cs ih =>
    rw [List.forall_mem_cons] at h
    intro awaited read
    have here : step (.code ⟨awaited, read⟩) c = some (.code ⟨awaited, read ++ [Token.char c]⟩) :=
      stepCode_of_isInert h.1 _
    rw [List.nil_append, run_cons here]
    have rest := ih h.2 awaited (read ++ [Token.char c])
    rwa [List.append_assoc] at rest

section Literals

def spelled? : List Char → Option Nat
  | ['\\', 'u', a, b, c, d] => do
    let a ← hexValue? a
    let b ← hexValue? b
    let c ← hexValue? c
    let d ← hexValue? d
    return 16 * (16 * (16 * (16 * 0 + a) + b) + c) + d
  | _ => none

theorem run_spelled {cs : List Char} {n : Nat} (h : spelled? cs = some n) (s : State)
    (text : List Char) :
    run (.literal s text) cs = some (.literal s (text ++ [Char.ofNat n])) := by
  unfold spelled? at h
  split at h
  · next a b c d =>
    obtain ⟨a', ha, h⟩ := Option.bind_eq_some_iff.1 h
    obtain ⟨b', hb, h⟩ := Option.bind_eq_some_iff.1 h
    obtain ⟨c', hc, h⟩ := Option.bind_eq_some_iff.1 h
    obtain ⟨d', hd, h⟩ := Option.bind_eq_some_iff.1 h
    cases h
    simp [run, step, ha, hb, hc, hd]
  · cases h

theorem spelled_unicodeEscape : ∀ n < 160, spelled? (Escape.unicodeEscape n) = some n := by
  decide +kernel

theorem spelled_escaped {c : Char}
    (h : c ∈ ['\'', '"', '\x60', '<', '>', '&', '\u2028', '\u2029'] ∨ Text.isControl c = true) :
    spelled? (Escape.unicodeEscape c.toNat) = some c.toNat := by
  have listed : (['\'', '"', '\x60', '<', '>', '&', '\u2028', '\u2029'].all fun c =>
      spelled? (Escape.unicodeEscape c.toNat) == some c.toNat) = true := by decide +kernel
  rcases h with h | h
  · exact beq_iff_eq.1 (List.all_eq_true.1 listed c h)
  · refine spelled_unicodeEscape _ ?_
    simp only [Text.isControl, Bool.or_eq_true, Bool.and_eq_true, decide_eq_true_eq] at h
    omega

theorem run_scriptChar (s : State) (text : List Char) (c : Char) :
    run (.literal s text) (Escape.scriptChar c) = some (.literal s (text ++ [c])) := by
  unfold Escape.scriptChar
  split
  iterate 4 rfl
  · split
    · next special =>
      rw [run_spelled (spelled_escaped special), Char.ofNat_toNat]
    · next _ backslash lf cr _ plain =>
      have quote : c ≠ '\'' := by
        rintro rfl
        exact plain (.inl List.mem_cons_self)
      have here : step (.literal s text) c = some (.literal s (text ++ [c])) := by
        rw [step, if_neg quote, if_neg backslash, if_neg (not_or.2 ⟨lf, cr⟩)]
      rw [run_cons here]
      rfl

theorem run_script (s : State) (cs text : List Char) :
    run (.literal s text) (cs.flatMap Escape.scriptChar) = some (.literal s (text ++ cs)) := by
  induction cs generalizing text with
  | nil => simp [run]
  | cons c cs ih =>
    rw [List.flatMap_cons, run_append (run_scriptChar s text c), ih, List.append_assoc,
      List.singleton_append]

/-- A literal is read as a unit that stands for the text it was made from. -/
theorem reads_literal (text : String) : Reads (Escape.literal text) [.literal text] := by
  intro awaited read
  have opening : step (.code ⟨awaited, read⟩) '\'' = some (.literal ⟨awaited, read⟩ []) := rfl
  have written : (Escape.literal text).toList =
      '\'' :: (text.toList.flatMap Escape.scriptChar ++ ['\'']) := by
    simp [Escape.literal, Escape.script, Escape.toList_each]
  rw [written, List.nil_append, run_cons opening, run_append (run_script _ _ _), List.nil_append]
  simp [run, step, State.add, String.ofList_toList]

end Literals

end MiniApp.Code

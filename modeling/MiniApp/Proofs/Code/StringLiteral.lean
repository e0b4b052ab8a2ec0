import MiniApp.Json.Token
import MiniApp.Proofs.Code.Reader

set_option autoImplicit false

namespace MiniApp.StringLiteral

open Json (hexValue?)

section Units

/-- A code point from 2^16 on takes a pair of surrogates. -/
def unitsOf (n : Nat) : List Nat :=
  if n < 0x10000 then [n] else [0xd800 + (n - 0x10000) / 0x400, 0xdc00 + (n - 0x10000) % 0x400]

/-- The text as a script sees it, in units of 16 bits. -/
def units (cs : List Char) : List Nat := cs.flatMap fun c => unitsOf c.toNat

theorem toNat_lt_or_gt (c : Char) : c.toNat < 0xd800 ∨ 0xdfff < c.toNat ∧ c.toNat < 0x110000 :=
  c.valid

/-- No character is a surrogate, so the units of one never start those of another. -/
theorem unitsOf_append_inj {c d : Char} {us vs : List Nat}
    (h : unitsOf c.toNat ++ us = unitsOf d.toNat ++ vs) : c = d ∧ us = vs := by
  have hc := toNat_lt_or_gt c
  have hd := toNat_lt_or_gt d
  suffices same : c.toNat = d.toNat ∧ us = vs from ⟨Char.toNat_inj.1 same.1, same.2⟩
  unfold unitsOf at h
  split_ifs at h with small small' small' <;>
    simp only [List.cons_append, List.nil_append, List.cons.injEq] at h
  · exact h
  · omega
  · omega
  · exact ⟨by omega, h.2.2⟩

theorem units_injective {cs ds : List Char} (h : units cs = units ds) : cs = ds := by
  have positive (c : Char) : unitsOf c.toNat ≠ [] := by
    unfold unitsOf
    split_ifs <;> simp
  induction cs generalizing ds with
  | nil =>
    cases ds with
    | nil => rfl
    | cons d ds => exact absurd (List.append_eq_nil_iff.1 h.symm).1 (positive d)
  | cons c cs ih =>
    cases ds with
    | nil => exact absurd (List.append_eq_nil_iff.1 h).1 (positive c)
    | cons d ds =>
      obtain ⟨rfl, rest⟩ := unitsOf_append_inj h
      rw [ih rest]

end Units

section Reader

inductive Mode where
  | text
  | escape
  /-- So many digits are to come after the next one. -/
  | digits (left value : Nat)
  /-- A code point follows, as four digits or in braces. -/
  | unicode
  | braced (value : Option Nat)
  /-- No digit may follow the escape of the null character. -/
  | null
  /-- A line feed belongs to the line break that was left out. -/
  | carriageReturn
deriving DecidableEq

inductive Outcome where
  | closes
  | reads (next : Mode) (units : List Nat)
deriving DecidableEq

def controls : List (Char × Nat) :=
  [('b', 8), ('t', 9), ('n', 10), ('v', 11), ('f', 12), ('r', 13)]

def stepText (c : Char) : Option Outcome :=
  if c = '\'' then some .closes
  else if c = '\\' then some (.reads .escape [])
  else if c = '\n' ∨ c = '\r' then none
  else some (.reads .text (unitsOf c.toNat))

def stepEscape (c : Char) : Option Outcome :=
  if c = 'u' then some (.reads .unicode [])
  else if c = 'x' then some (.reads (.digits 1 0) [])
  else if c = '0' then some (.reads .null [0])
  else if c.isDigit then none
  else if c = '\r' then some (.reads .carriageReturn [])
  else if c = '\n' ∨ c = '\u2028' ∨ c = '\u2029' then some (.reads .text [])
  else some (.reads .text (((controls.lookup c).map fun n => [n]).getD (unitsOf c.toNat)))

def stepDigits (left value : Nat) (c : Char) : Option Outcome :=
  (hexValue? c).map fun d =>
    match left with
    | 0 => .reads .text [16 * value + d]
    | left + 1 => .reads (.digits left (16 * value + d)) []

def stepBraced (value : Option Nat) (c : Char) : Option Outcome :=
  if c = '\x7d' then
    match value with
    | some n => if n < 0x110000 then some (.reads .text (unitsOf n)) else none
    | none => none
  else (hexValue? c).map fun d => .reads (.braced (some (16 * value.getD 0 + d))) []

def step : Mode → Char → Option Outcome
  | .text, c => stepText c
  | .escape, c => stepEscape c
  | .digits left value, c => stepDigits left value c
  | .unicode, c => if c = '\x7b' then some (.reads (.braced none) []) else stepDigits 3 0 c
  | .braced value, c => stepBraced value c
  | .null, c => if c.isDigit then none else stepText c
  | .carriageReturn, c => if c = '\n' then some (.reads .text []) else stepText c

def read? (m : Mode) (before : List Nat) : List Char → Option (List Nat × List Char)
  | [] => none
  | c :: cs =>
    match step m c with
    | none => none
    | some .closes => some (before, cs)
    | some (.reads next more) => read? next (before ++ more) cs

def value? : List Char → Option (List Nat × List Char)
  | [] => none
  | c :: cs => if c = '\'' then read? .text [] cs else none

theorem read?_cons {m m' : Mode} {c : Char} {more : List Nat} (h : step m c = some (.reads m' more))
    (before : List Nat) (cs : List Char) :
    read? m before (c :: cs) = read? m' (before ++ more) cs := by
  rw [read?, h]

end Reader

section Escapes

/-- Characters that stand for themselves, and the escapes of generated code: backslashes, line
breaks and tabs by a letter, all else by four digits. -/
inductive Spelled : List Char → Prop
  | nil : Spelled []
  | plain {c : Char} {cs : List Char} (h : c ≠ '\\') (rest : Spelled cs) : Spelled (c :: cs)
  | letter {e : Char} {cs : List Char} (h : e ∈ ['\\', 'n', 'r', 't']) (rest : Spelled cs) :
      Spelled ('\\' :: e :: cs)
  | digits {w x y z : Char} {cs : List Char}
      (h : ∀ digit ∈ [w, x, y, z], (hexValue? digit).isSome = true) (rest : Spelled cs) :
      Spelled ('\\' :: 'u' :: w :: x :: y :: z :: cs)

/-- What stands before the first single quote that no backslash escapes, and what is behind it. -/
def cutAtQuote? (escaped : Bool) : List Char → Option (List Char × List Char)
  | [] => none
  | c :: cs =>
    if escaped = false ∧ c = '\'' then some ([], cs)
    else
      (cutAtQuote? (decide (escaped = false ∧ c = '\\')) cs).map fun p => (c :: p.1, p.2)

def forbidden : List Char := ['"', '\'', '\x60', '<', '>', '&', '\u2028', '\u2029']

/-- The character may stand in a literal as it is, and in any place that takes code. -/
def Harmless (c : Char) : Prop := c ∉ forbidden ∧ Text.isControl c = false

instance (c : Char) : Decidable (Harmless c) := inferInstanceAs (Decidable (_ ∧ _))

inductive Escapes (c : Char) : List Char → Prop
  | plain (h : Harmless c) (other : c ≠ '\\') : Escapes c [c]
  | letter {e : Char} (h : (e, c) ∈ Code.escapes) : Escapes c ['\\', e]
  | digits {w x y z : Char} {w' x' y' z' : Nat} (hw : hexValue? w = some w')
      (hx : hexValue? x = some x') (hy : hexValue? y = some y') (hz : hexValue? z = some z')
      (value : 16 * (16 * (16 * (16 * 0 + w') + x') + y') + z' = c.toNat)
      (small : c.toNat < 0x10000) : Escapes c ['\\', 'u', w, x, y, z]

theorem hexValue?_of_code {c : Char} {n : Nat} (h : Code.hexValue? c = some n) :
    hexValue? c = some n := by
  rw [Code.hexValue?] at h
  split_ifs at h with digit upper
  · rw [hexValue?, if_pos digit]
    exact h
  · have lower : ¬ ('a' ≤ c ∧ c ≤ 'f') := fun lower =>
      absurd (Char.le_trans lower.1 upper.2) (by decide)
    have letter : 65 ≤ c.toNat := upper.1
    rw [hexValue?, if_neg digit, if_neg lower, if_pos upper, ← h]
    exact congrArg some (show c.toNat - 65 + 10 = c.toNat - 55 by omega)

theorem Escapes.of_spelled {c : Char} {cs : List Char} (h : Code.spelled? cs = some c.toNat)
    (small : c.toNat < 0x10000) : Escapes c cs := by
  unfold Code.spelled? at h
  split at h
  · obtain ⟨w, hw, h⟩ := Option.bind_eq_some_iff.1 h
    obtain ⟨x, hx, h⟩ := Option.bind_eq_some_iff.1 h
    obtain ⟨y, hy, h⟩ := Option.bind_eq_some_iff.1 h
    obtain ⟨z, hz, h⟩ := Option.bind_eq_some_iff.1 h
    exact .digits (hexValue?_of_code hw) (hexValue?_of_code hx) (hexValue?_of_code hy)
      (hexValue?_of_code hz) (Option.some.inj h) small
  · cases h

theorem escapes_scriptChar (c : Char) : Escapes c (Escape.scriptChar c) := by
  unfold Escape.scriptChar
  split
  iterate 4 exact .letter (by decide)
  · next backslash _ _ _ =>
    split
    · next special =>
      have low : (['\'', '"', '\x60', '<', '>', '&', '\u2028', '\u2029'].all
        fun c => decide (c.toNat < 0x10000)) = true := by decide
      refine .of_spelled (Code.spelled_escaped special) ?_
      rcases special with listed | control
      · exact of_decide_eq_true (List.all_eq_true.1 low c listed)
      · simp only [Text.isControl, Bool.or_eq_true, Bool.and_eq_true, decide_eq_true_eq] at control
        omega
    · next plain =>
      obtain ⟨listed, control⟩ := not_or.1 plain
      refine .plain ⟨?_, Bool.eq_false_iff.2 control⟩ backslash
      rw [forbidden]
      grind

theorem harmless_of_hexValue? {c : Char} {n : Nat} (h : hexValue? c = some n) : Harmless c := by
  have foreign : (forbidden.all fun c => hexValue? c == none) = true := by decide
  refine ⟨fun listed => ?_, ?_⟩
  · have none := beq_iff_eq.1 (List.all_eq_true.1 foreign c listed)
    rw [h] at none
    cases none
  · have range : 48 ≤ c.toNat ∧ c.toNat ≤ 102 := by
      rw [hexValue?] at h
      split_ifs at h with digit lower upper
      · rw [Char.isDigit, Bool.and_eq_true, decide_eq_true_eq, decide_eq_true_eq] at digit
        exact ⟨digit.1, Nat.le_trans digit.2 (by decide)⟩
      · exact ⟨Nat.le_trans (by decide) lower.1, lower.2⟩
      · exact ⟨Nat.le_trans (by decide) upper.1, Nat.le_trans upper.2 (by decide)⟩
    simp only [Text.isControl, Bool.or_eq_false_iff, decide_eq_false_iff_not, Bool.and_eq_false_iff]
    omega

theorem Escapes.harmless {c : Char} {cs : List Char} (h : Escapes c cs) : ∀ d ∈ cs, Harmless d := by
  cases h with
  | plain h => exact List.forall_mem_singleton.2 h
  | letter h =>
    have marks : (Code.escapes.all fun p => decide (Harmless p.1)) = true := by decide
    have mark := of_decide_eq_true (List.all_eq_true.1 marks _ h)
    simpa using ⟨by decide, mark⟩
  | digits hw hx hy hz =>
    simp only [List.forall_mem_cons]
    exact ⟨by decide, by decide, harmless_of_hexValue? hw, harmless_of_hexValue? hx,
      harmless_of_hexValue? hy, harmless_of_hexValue? hz, List.forall_mem_nil _⟩

theorem Escapes.spelled_append {c : Char} {cs rest : List Char} (h : Escapes c cs)
    (hr : Spelled rest) : Spelled (cs ++ rest) := by
  cases h with
  | plain _ other => exact .plain other hr
  | letter h => exact .letter (List.mem_map_of_mem (f := Prod.fst) h) hr
  | digits hw hx hy hz => exact .digits (by simp [hw, hx, hy, hz]) hr

theorem Escapes.read?_append {c : Char} {cs : List Char} (h : Escapes c cs) (before : List Nat)
    (rest : List Char) :
    read? .text before (cs ++ rest) = read? .text (before ++ unitsOf c.toNat) rest := by
  have backslash : step .text '\\' = some (.reads .escape []) := rfl
  cases h with
  | plain h other =>
    have here : step .text c = some (.reads .text (unitsOf c.toNat)) := by
      have quote : c ≠ '\'' := fun same => absurd (same ▸ h) (by decide)
      have lineFeed : c ≠ '\n' := fun same => absurd (same ▸ h) (by decide)
      have carriageReturn : c ≠ '\r' := fun same => absurd (same ▸ h) (by decide)
      rw [step, stepText, if_neg quote, if_neg other, if_neg (not_or.2 ⟨lineFeed, carriageReturn⟩)]
    exact read?_cons here before rest
  | @letter e h =>
    have known : (Code.escapes.all fun p =>
        decide (step .escape p.1 = some (.reads .text (unitsOf p.2.toNat)))) = true := by decide
    have here := of_decide_eq_true (List.all_eq_true.1 known _ h)
    rw [List.cons_append, read?_cons backslash, List.append_nil]
    exact read?_cons here before rest
  | @digits w x y z w' x' y' z' hw hx hy hz value small =>
    have unit : unitsOf c.toNat = [c.toNat] := if_pos small
    have unicode : step .escape 'u' = some (.reads .unicode []) := rfl
    have brace : w ≠ '\x7b' := fun same => by cases same ▸ hw
    have first : step .unicode w = some (.reads (.digits 2 (16 * 0 + w')) []) := by
      rw [step, if_neg brace, stepDigits, hw, Option.map_some]
    have next {left n : Nat} {d : Char} {d' : Nat} (hd : hexValue? d = some d') :
        step (.digits (left + 1) n) d = some (.reads (.digits left (16 * n + d')) []) := by
      rw [step, stepDigits, hd, Option.map_some]
    have last : step (.digits 0 (16 * (16 * (16 * 0 + w') + x') + y')) z =
        some (.reads .text [c.toNat]) := by
      rw [step, stepDigits, hz, Option.map_some, ← value]
    rw [unit]
    simp only [List.cons_append, List.nil_append]
    rw [read?_cons backslash, read?_cons unicode, read?_cons first, read?_cons (next hx),
      read?_cons (next hy), read?_cons last]
    simp only [List.append_nil]

theorem spelled_script (cs : List Char) : Spelled (cs.flatMap Escape.scriptChar) := by
  induction cs with
  | nil => exact .nil
  | cons c cs ih => exact (escapes_scriptChar c).spelled_append ih

theorem read?_script (cs : List Char) (before : List Nat) (rest : List Char) :
    read? .text before (cs.flatMap Escape.scriptChar ++ rest) =
      read? .text (before ++ units cs) rest := by
  induction cs generalizing before with
  | nil => simp [units]
  | cons c cs ih =>
    rw [List.flatMap_cons, List.append_assoc, (escapes_scriptChar c).read?_append, ih, units, units,
      List.flatMap_cons, List.append_assoc]

/-- Where no escape spells a quote by itself, the first one is the one behind the text. -/
theorem Spelled.cutAtQuote?_eq {cs : List Char} (h : Spelled cs) (quiet : '\'' ∉ cs)
    (rest : List Char) : cutAtQuote? false (cs ++ '\'' :: rest) = some (cs, rest) := by
  have skip {escaped : Bool} {c : Char} (hc : '\'' ≠ c) (cs : List Char) :
      cutAtQuote? escaped (c :: cs) =
        (cutAtQuote? (decide (escaped = false ∧ c = '\\')) cs).map fun p => (c :: p.1, p.2) := by
    rw [cutAtQuote?, if_neg fun h => hc h.2.symm]
  induction h with
  | nil => rfl
  | plain h _ ih =>
    simp only [List.mem_cons, not_or] at quiet
    simp [skip quiet.1, h, ih quiet.2]
  | letter _ _ ih =>
    simp only [List.mem_cons, not_or] at quiet
    simp [skip quiet.1, skip quiet.2.1, ih quiet.2.2]
  | @digits w x y z cs h _ ih =>
    simp only [List.mem_cons, not_or] at quiet
    obtain ⟨-, -, hw, hx, hy, hz, quiet⟩ := quiet
    have digit : ∀ d ∈ [w, x, y, z], d ≠ '\\' := by
      rintro d hd rfl
      exact absurd (h _ hd) (by decide)
    simp only [List.forall_mem_cons] at digit
    simp [skip, hw, hx, hy, hz, digit, ih quiet]

end Escapes

/-- What makes the literal of a text stand for it. -/
structure Faithful (text : String) : Prop where
  harmless : ∀ c ∈ (Escape.script text).toList, Harmless c
  spelled : Spelled (Escape.script text).toList
  value : ∀ rest, value? ((Escape.literal text).toList ++ rest) = some (units text.toList, rest)
  closes : ∀ rest, cutAtQuote? false ((Escape.script text).toList ++ '\'' :: rest) =
    some ((Escape.script text).toList, rest)
  unique : ∀ other, Escape.script other = Escape.script text → other = text

theorem toList_script (text : String) :
    (Escape.script text).toList = text.toList.flatMap Escape.scriptChar := Escape.toList_each ..

theorem value?_literal (text : String) (rest : List Char) :
    value? ((Escape.literal text).toList ++ rest) = some (units text.toList, rest) := by
  have written : (Escape.literal text).toList ++ rest =
      '\'' :: (text.toList.flatMap Escape.scriptChar ++ '\'' :: rest) := by
    simp [Escape.literal, toList_script]
  rw [written, value?, if_pos rfl, read?_script, List.nil_append]
  rfl

/-- The literal of every text stands for that text, and for no other. -/
theorem literal_faithful (text : String) : Faithful text := by
  have harmless : ∀ c ∈ (Escape.script text).toList, Harmless c := by
    rw [toList_script]
    intro c h
    obtain ⟨d, -, h⟩ := List.mem_flatMap.1 h
    exact (escapes_scriptChar d).harmless c h
  have spelled : Spelled (Escape.script text).toList := toList_script text ▸ spelled_script _
  refine ⟨harmless, spelled, value?_literal text, spelled.cutAtQuote?_eq ?_, fun other same => ?_⟩
  · exact fun quote => absurd (harmless _ quote) (by decide)
  · have both : Escape.literal other = Escape.literal text := by
      rw [Escape.literal, Escape.literal, same]
    have value := value?_literal other []
    rw [both, value?_literal, Option.some.injEq, Prod.mk.injEq] at value
    exact String.toList_inj.1 (units_injective value.1).symm

end MiniApp.StringLiteral

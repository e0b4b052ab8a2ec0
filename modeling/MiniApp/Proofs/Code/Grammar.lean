import MiniApp.Proofs.Code.StringLiteral
import MiniApp.Proofs.Number.Reading
import MiniApp.Source.Script

/-!
# A reader of literals

The literals of the scripting language: strings in single quotes with all their escapes, decimal
numerals, truth values, lists, records under names, and calls of a function by its path. The reader
goes by the grammar alone and allows blanks between any two tokens. Which characters make up names
beyond the first code points is left open.
-/

set_option autoImplicit false

namespace MiniApp

namespace StringLiteral

def isSurrogate (u : Nat) : Bool := 0xd800 ≤ u && u < 0xe000

/-- The text of some units; there is none when half of a pair stands alone. -/
def text? : List Nat → Option (List Char)
  | [] => some []
  | u :: us =>
    if isSurrogate u then
      match us with
      | [] => none
      | v :: us =>
        if u < 0xdc00 ∧ 0xdc00 ≤ v ∧ v < 0xe000 then
          (text? us).map (Char.ofNat (0x10000 + 0x400 * (u - 0xd800) + (v - 0xdc00)) :: ·)
        else none
    else (text? us).map (Char.ofNat u :: ·)

theorem text?_unitsOf_append (c : Char) (us : List Nat) :
    text? (unitsOf c.toNat ++ us) = (text? us).map (c :: ·) := by
  have valid := toNat_lt_or_gt c
  rw [unitsOf]
  split
  · next small =>
    have plain : isSurrogate c.toNat = false := by
      simp [isSurrogate]
      omega
    rw [List.singleton_append, text?.eq_def]
    simp only [plain, if_neg Bool.false_ne_true, Char.ofNat_toNat]
  · next large =>
    have lead : isSurrogate (0xd800 + (c.toNat - 0x10000) / 0x400) = true := by
      simp [isSurrogate]
      omega
    have point : 0x10000 + 0x400 * (0xd800 + (c.toNat - 0x10000) / 0x400 - 0xd800) +
        (0xdc00 + (c.toNat - 0x10000) % 0x400 - 0xdc00) = c.toNat := by omega
    rw [List.cons_append, List.singleton_append, text?.eq_def]
    simp only [lead, if_true]
    rw [if_pos (by omega), point, Char.ofNat_toNat]

theorem text?_units (cs : List Char) : text? (units cs) = some cs := by
  induction cs with
  | nil => rfl
  | cons c cs ih =>
    rw [units, List.flatMap_cons, text?_unitsOf_append, ← units, ih, Option.map_some]

end StringLiteral

namespace Code

def isSpace (c : Char) : Bool := Text.isBlank c && c != '\u0085' || c == '\ufeff'

/-- The characters that names start and go on with: a letter, an underscore or a dollar sign first,
then digits as well, and beyond the first code points any others but blanks. -/
structure Alphabet where
  starts : Char → Bool
  continues : Char → Bool
  continues_of_starts : ∀ c, starts c = true → continues c = true
  starts_low : ∀ c, c.toNat < 0xa0 → starts c = (c.isAlpha || c == '_' || c == '$')
  continues_low : ∀ c, c.toNat < 0xa0 → continues c = (c.isAlphanum || c == '_' || c == '$')
  spaces : ∀ c, isSpace c = true → continues c = false

namespace Alphabet

variable (a : Alphabet)

def isName : List Char → Bool
  | [] => false
  | c :: cs => a.starts c && cs.all a.continues

def isPath (cs : List Char) : Bool := (Text.splitWhere (· == '.') cs).all a.isName

def isWordChar (c : Char) : Bool := a.continues c || c == '.' || c == '-' || c == '+'

end Alphabet

section Reader

def skip (cs : List Char) : List Char := cs.dropWhile isSpace

def word? (word : List Char) : Option Script :=
  if word = ['t', 'r', 'u', 'e'] then some (.bool true)
  else if word = ['f', 'a', 'l', 's', 'e'] then some (.bool false)
  else (Numeral.value? word).map .number

section Items

variable {α : Type} (item? : List Char → Option (α × List Char)) (close : Char)

def items? : Nat → List Char → Option (List α × List Char)
  | 0, _ => none
  | n + 1, cs => do
    let (first, cs) ← item? (skip cs)
    match skip cs with
    | [] => none
    | c :: cs =>
      if c = ',' then (items? n cs).map fun r => (first :: r.1, r.2)
      else if c = close then some ([first], cs)
      else none

def list? (cs : List Char) : Option (List α × List Char) :=
  match skip cs with
  | [] => none
  | c :: cs => if c = close then some ([], cs) else items? item? close (cs.length + 1) (c :: cs)

end Items

namespace Alphabet

variable (a : Alphabet)

def scalar? (cs : List Char) : Option (Script × List Char) :=
  match StringLiteral.value? cs with
  | some (units, rest) =>
    (StringLiteral.text? units).map fun text => (.text (String.ofList text), rest)
  | none => (word? (cs.takeWhile a.isWordChar)).map fun e => (e, cs.dropWhile a.isWordChar)

def field? (value? : List Char → Option (Script × List Char)) (cs : List Char) :
    Option ((String × Script) × List Char) :=
  let key := cs.takeWhile a.continues
  if a.isName key then
    match skip (cs.dropWhile a.continues) with
    | ':' :: cs => (value? (skip cs)).map fun r => ((String.ofList key, r.1), r.2)
    | _ => none
  else none

/-- The literal that some code starts with, nested at most so deep, and the code behind it. -/
def expression? : Nat → List Char → Option (Script × List Char)
  | 0, _ => none
  | n + 1, '[' :: cs => (list? (expression? n) ']' cs).map fun r => (.list r.1, r.2)
  | n + 1, '{' :: cs =>
    (list? (a.field? (expression? n)) '}' cs).map fun r => (.record r.1, r.2)
  | _ + 1, cs => a.scalar? cs

def read? (code : String) : Option Script :=
  match a.expression? (code.toList.length + 1) code.toList with
  | some (e, rest) => if skip rest = [] then some e else none
  | none => none

def readCall? (code : String) : Option (String × List Script) :=
  let isPathChar := fun c => a.continues c || c == '.'
  let callee := code.toList.takeWhile isPathChar
  if a.isPath callee then
    match skip (code.toList.dropWhile isPathChar) with
    | '(' :: cs =>
      match list? (a.expression? (cs.length + 1)) ')' cs with
      | some (args, rest) => if skip rest = [] then some (String.ofList callee, args) else none
      | none => none
    | _ => none
  else none

end Alphabet

end Reader

section Words

def marks : List Char :=
  [' ', '\t', '\n', '\r', ',', ':', '(', ')', '[', ']', '\x7b', '\x7d', '\'']

variable (a : Alphabet)

theorem Alphabet.all_continues {name : List Char} (h : a.isName name = true) :
    ∀ c ∈ name, a.continues c = true := by
  cases name with
  | nil => exact List.forall_mem_nil _
  | cons c cs =>
    rw [Alphabet.isName, Bool.and_eq_true, List.all_eq_true] at h
    exact List.forall_mem_cons.2 ⟨a.continues_of_starts c h.1, h.2⟩

theorem Alphabet.isWordChar_mark {c : Char} (h : c ∈ marks) : a.isWordChar c = false := by
  have low : (marks.all fun c => decide (c.toNat < 0xa0) &&
      !(c.isAlphanum || c == '_' || c == '$') && !(c == '.' || c == '-' || c == '+')) = true := by
    decide
  have here := List.all_eq_true.1 low c h
  rw [Bool.and_eq_true, Bool.and_eq_true, decide_eq_true_eq, Bool.not_eq_true',
    Bool.not_eq_true'] at here
  obtain ⟨⟨low, name⟩, sign⟩ := here
  rw [Alphabet.isWordChar, a.continues_low c low, name, Bool.false_or, sign]

theorem Alphabet.ne_of_isWordChar {c d : Char} (h : a.isWordChar c = true) (mark : d ∈ marks) :
    c ≠ d := by
  rintro rfl
  rw [a.isWordChar_mark mark] at h
  cases h

theorem Alphabet.isWordChar_of_continues {c : Char} (h : a.continues c = true) :
    a.isWordChar c = true := by
  rw [Alphabet.isWordChar, h, Bool.true_or, Bool.true_or, Bool.true_or]

theorem Alphabet.isWordChar_letter {c : Char} (h : c.isAlphanum = true) :
    a.isWordChar c = true := by
  have range := (Text.isAlphanum_iff c).1 h
  have low : c.toNat < 0xa0 := by omega
  refine a.isWordChar_of_continues ?_
  rw [a.continues_low c low, h, Bool.true_or, Bool.true_or]

theorem Alphabet.continues_mark {c : Char} (h : c ∈ marks) : a.continues c = false := by
  by_contra name
  have word := a.isWordChar_of_continues (Bool.not_eq_false _ ▸ name)
  rw [a.isWordChar_mark h] at word
  cases word

theorem Alphabet.isSpace_of_isWordChar {c : Char} (h : a.isWordChar c = true) :
    isSpace c = false := by
  by_contra space
  rw [Bool.not_eq_false] at space
  rw [Alphabet.isWordChar, a.spaces c space, Bool.false_or, Bool.or_eq_true, Bool.or_eq_true,
    beq_iff_eq, beq_iff_eq, beq_iff_eq] at h
  rcases h with (rfl | rfl) | rfl <;> exact absurd space (by decide)

def Alphabet.Ends (rest : List Char) : Prop := ∀ c ∈ rest.head?, a.isWordChar c = false

theorem Alphabet.ends_nil : a.Ends [] := fun _ none => by cases none

theorem Alphabet.ends_cons {c : Char} (h : c ∈ marks) (rest : List Char) : a.Ends (c :: rest) :=
  fun _ same => Option.some.inj same ▸ a.isWordChar_mark h

def Alphabet.low : Alphabet where
  starts c := c.isAlpha || c == '_' || c == '$'
  continues c := c.isAlphanum || c == '_' || c == '$'
  continues_of_starts c h := by
    simp only [Char.isAlphanum, Bool.or_eq_true] at h ⊢
    tauto
  starts_low _ _ := rfl
  continues_low _ _ := rfl
  spaces c h := by
    by_contra name
    rw [Bool.not_eq_false, Bool.or_eq_true, Bool.or_eq_true, beq_iff_eq, beq_iff_eq] at name
    rcases name with (letter | rfl) | rfl
    · rw [isSpace, Text.isBlank_of_isAlphanum letter, Bool.false_and, Bool.false_or,
        beq_iff_eq] at h
      exact absurd letter (by rw [h]; decide)
    · cases h
    · cases h

end Words

end Code

end MiniApp

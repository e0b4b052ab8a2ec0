import Mathlib.Data.Bool.AllAny
import MiniApp.Proofs.Text.Runs
import MiniApp.Sanitize

set_option autoImplicit false

namespace MiniApp

namespace Sanitize

def functionNames : List String := ["rgb", "rgba", "hsl", "hsla"]

/-- A colour: a hash with hexadecimal digits, a function of numbers, a word, or a design token. -/
inductive IsColor : List Char → Prop
  | hex {digits : List Char} (few : 3 ≤ digits.length) (many : digits.length ≤ 8)
      (h : ∀ c ∈ digits, isHexDigit c = true) : IsColor ('#' :: digits)
  | function {name : String} {args : List Char} (named : name ∈ functionNames)
      (some : args ≠ []) (h : ∀ c ∈ args, isColorArgumentChar c = true) :
      IsColor (name.toList ++ '(' :: (args ++ [')']))
  | word {letters : List Char} (few : 3 ≤ letters.length) (many : letters.length ≤ 20)
      (h : ∀ c ∈ letters, c.isAlpha = true) : IsColor letters
  | token {name : List Char} (some : name ≠ []) (h : ∀ c ∈ name, isTokenChar c = true) :
      IsColor ("var(--".toList ++ (name ++ [')']))

section Forms

theorem argument?_eq_some_iff {opening : String} {cs inner : List Char} :
    argument? opening cs = some inner ↔ cs = opening.toList ++ (inner ++ [')']) := by
  rw [argument?]
  constructor
  · intro h
    split at h
    · next parts =>
      obtain ⟨starts, ends⟩ := parts
      obtain ⟨behind, rfl⟩ := List.isPrefixOf_iff_prefix.1 starts
      rw [List.drop_left] at ends h
      rw [← Option.some.inj h, List.dropLast_append_getLast? _ ends]
    · cases h
  · rintro rfl
    simp [List.isPrefixOf_iff_prefix]

theorem holds_iff {p : Char → Bool} {inner : Option (List Char)} :
    holds p inner = true ↔ ∃ cs, inner = some cs ∧ cs ≠ [] ∧ ∀ c ∈ cs, p c = true := by
  unfold holds
  split
  · simp
  · next other =>
    refine iff_of_false Bool.false_ne_true ?_
    rintro ⟨cs, rfl, nonempty, -⟩
    obtain ⟨c, cs, rfl⟩ := List.exists_cons_of_ne_nil nonempty
    exact other c cs rfl

theorem isFunctionColor_iff (cs : List Char) : isFunctionColor cs = true ↔
    ∃ name ∈ functionNames, ∃ args, cs = name.toList ++ '(' :: (args ++ [')']) ∧ args ≠ [] ∧
      ∀ c ∈ args, isColorArgumentChar c = true := by
  have openings : isFunctionColor cs = functionNames.any fun name =>
      holds isColorArgumentChar (argument? (name ++ "(") cs) := rfl
  have opened (name : String) (args : List Char) :
      (name ++ "(").toList ++ (args ++ [')']) = name.toList ++ '(' :: (args ++ [')']) := by simp
  simp only [openings, List.any_eq_true, holds_iff, argument?_eq_some_iff, opened]

theorem isColor_iff (cs : List Char) : isColor cs = true ↔ IsColor cs := by
  simp only [isColor, Bool.or_eq_true]
  constructor
  · rintro (((hex | function) | word) | token)
    · unfold isHexColor at hex
      split at hex
      · simp only [Bool.and_eq_true, decide_eq_true_eq, List.all_eq_true] at hex
        exact .hex hex.1.1 hex.1.2 hex.2
      · cases hex
    · obtain ⟨name, named, args, rfl, nonempty, chars⟩ := (isFunctionColor_iff cs).1 function
      exact .function named nonempty chars
    · simp only [isNamedColor, Bool.and_eq_true, decide_eq_true_eq, List.all_eq_true] at word
      exact .word word.1.1 word.1.2 word.2
    · obtain ⟨name, argument, nonempty, chars⟩ := holds_iff.1 token
      rw [argument?_eq_some_iff.1 argument]
      exact .token nonempty chars
  · rintro (⟨few, many, h⟩ | ⟨named, nonempty, h⟩ | ⟨few, many, h⟩ | ⟨nonempty, h⟩)
    · refine .inl (.inl (.inl ?_))
      simp only [isHexColor, Bool.and_eq_true, decide_eq_true_eq, List.all_eq_true]
      exact ⟨⟨few, many⟩, h⟩
    · exact .inl (.inl (.inr ((isFunctionColor_iff _).2 ⟨_, named, _, rfl, nonempty, h⟩)))
    · refine .inl (.inr ?_)
      simp only [isNamedColor, Bool.and_eq_true, decide_eq_true_eq, List.all_eq_true]
      exact ⟨⟨few, many⟩, h⟩
    · exact .inr (holds_iff.2 ⟨_, argument?_eq_some_iff.2 rfl, nonempty, h⟩)

end Forms

theorem color?_eq_some_iff (s t : String) :
    color? s = some t ↔ t = Text.trim s ∧ IsColor t.toList := by
  rw [color?]
  split
  · next h =>
    rw [isColor_iff] at h
    constructor
    · rintro ⟨⟩
      exact ⟨rfl, by rwa [String.toList_ofList]⟩
    · rintro ⟨rfl, -⟩
      rfl
  · next h =>
    rw [isColor_iff] at h
    refine iff_of_false (by simp) ?_
    rintro ⟨rfl, color⟩
    rw [Text.trim, String.toList_ofList] at color
    exact h color

theorem color?_of_color? {s t : String} (h : color? s = some t) : color? t = some t := by
  obtain ⟨rfl, color⟩ := (color?_eq_some_iff s t).1 h
  exact (color?_eq_some_iff _ _).2 ⟨(Text.trim_trim s).symm, color⟩

section Characters

/-- A character that can be in no value of a style: it would end the value, the declaration or the
attribute, or start something else in it. -/
def forbidden : List Char := [';', ':', '\x7b', '\x7d', '"', '\'', '\x60', '<', '>', '&', '\\']

def IsValue (s : String) : Prop := ∀ c ∈ s.toList, c ∉ forbidden

instance (s : String) : Decidable (IsValue s) := decidable_of_iff _ List.all_iff_forall_prop

def valueMarks : List Char := ['#', '(', ')', '.', '%', ',', '/', '+', '-']

def isValueChar (c : Char) : Bool := c.isAlphanum || Text.isBlank c || valueMarks.contains c

theorem notMem_forbidden {c : Char} (h : isValueChar c = true) : c ∉ forbidden := by
  have apart : (forbidden.all fun c => !isValueChar c) = true := by decide
  intro listed
  have other := List.all_eq_true.1 apart c listed
  rw [h] at other
  cases other

theorem isValueChar_of_isAlphanum {c : Char} (h : c.isAlphanum = true) : isValueChar c = true := by
  rw [isValueChar, h, Bool.true_or, Bool.true_or]

theorem isValueChar_of_mem {c : Char} (h : c ∈ valueMarks) : isValueChar c = true := by
  rw [isValueChar, List.contains_iff_mem.2 h, Bool.or_true]

theorem isValueChar_of_isHexDigit {c : Char} (h : isHexDigit c = true) : isValueChar c = true := by
  refine isValueChar_of_isAlphanum ?_
  simp only [isHexDigit, Bool.or_eq_true, Bool.and_eq_true, decide_eq_true_eq] at h
  rcases h with (digit | ⟨low, high⟩) | ⟨low, high⟩
  · exact Text.isAlphanum_of_isDigit digit
  · have low : 97 ≤ c.toNat := low
    have high : c.toNat ≤ 102 := high
    exact (Text.isAlphanum_iff c).2 (by omega)
  · have low : 65 ≤ c.toNat := low
    have high : c.toNat ≤ 70 := high
    exact (Text.isAlphanum_iff c).2 (by omega)

theorem isValueChar_of_isColorArgumentChar {c : Char} (h : isColorArgumentChar c = true) :
    isValueChar c = true := by
  simp only [isColorArgumentChar, Bool.or_eq_true, beq_iff_eq] at h
  rcases h with ((((((digit | blank) | rfl) | rfl) | rfl) | rfl) | rfl) | rfl
  · exact isValueChar_of_isAlphanum (Text.isAlphanum_of_isDigit digit)
  · rw [isValueChar, blank, Bool.or_true, Bool.true_or]
  all_goals exact isValueChar_of_mem (by decide)

theorem IsColor.forall_isValueChar {cs : List Char} (h : IsColor cs) :
    ∀ c ∈ cs, isValueChar c = true := by
  have word {name : String} (letters : name.toList.all Char.isAlphanum = true) :
      ∀ c ∈ name.toList, isValueChar c = true := fun c hc =>
    isValueChar_of_isAlphanum (List.all_eq_true.1 letters c hc)
  have mark {c : Char} (h : c ∈ valueMarks) : isValueChar c = true := isValueChar_of_mem h
  cases h with
  | hex few many h =>
    refine List.forall_mem_cons.2 ⟨mark (by decide), fun c hc => ?_⟩
    exact isValueChar_of_isHexDigit (h c hc)
  | @function name args named some h =>
    simp only [List.forall_mem_append, List.forall_mem_cons]
    have letters : ∀ name ∈ functionNames, name.toList.all Char.isAlphanum = true := by decide
    exact ⟨word (letters name named), mark (by decide),
      fun c hc => isValueChar_of_isColorArgumentChar (h c hc), mark (by decide),
      List.forall_mem_nil _⟩
  | word few many h =>
    intro c hc
    refine isValueChar_of_isAlphanum ?_
    rw [Char.isAlphanum, h c hc, Bool.true_or]
  | token some h =>
    simp only [List.forall_mem_append, List.forall_mem_singleton]
    refine ⟨List.all_eq_true.1 (by decide), fun c hc => ?_, mark (by decide)⟩
    have here := h c hc
    rw [isTokenChar, Bool.or_eq_true] at here
    rcases here with letter | hyphen
    · exact isValueChar_of_isAlphanum letter
    · rw [beq_iff_eq.1 hyphen]
      exact mark (by decide)

theorem IsColor.isValue {s : String} (h : IsColor s.toList) : IsValue s := fun c hc =>
  notMem_forbidden (h.forall_isValueChar c hc)

end Characters

end Sanitize

end MiniApp

import Mathlib.Data.Bool.AllAny
import MiniApp.Proofs.Code.Grammar
import MiniApp.Proofs.Code.Reader

set_option autoImplicit false

namespace MiniApp.Code

section Reader

inductive Place where
  | code
  | literal (mode : StringLiteral.Mode) (before : List Nat)

/-- The characters and the literals of code that leaves none of them open. Outside of literals
nothing stands that could start another kind of quote, a comment, an escape or markup. -/
def tokensFrom? : Place → List Char → Option (List Token)
  | .code, [] => some []
  | .literal .., [] => none
  | .code, c :: cs =>
    if c = '\'' then tokensFrom? (.literal .text []) cs
    else if foreign.contains c then none
    else (tokensFrom? .code cs).map (.char c :: ·)
  | .literal mode before, c :: cs =>
    match StringLiteral.step mode c with
    | none => none
    | some .closes => (StringLiteral.text? before).bind fun text =>
      (tokensFrom? .code cs).map (.literal (String.ofList text) :: ·)
    | some (.reads next more) => tokensFrom? (.literal next (before ++ more)) cs

def tokens? (code : String) : Option (List Token) := tokensFrom? .code code.toList

def Token.emptied : Token → Token
  | .char c => .char c
  | .literal _ => .literal ""

def Token.text? : Token → Option String
  | .char _ => none
  | .literal text => some text

def skeleton (tokens : List Token) : List Token := tokens.map Token.emptied

def texts (tokens : List Token) : List String := tokens.filterMap Token.text?

theorem tokensFrom?_literal {mode : StringLiteral.Mode} {before units : List Nat}
    {cs rest text : List Char} (read : StringLiteral.read? mode before cs = some (units, rest))
    (valid : StringLiteral.text? units = some text) :
    tokensFrom? (.literal mode before) cs =
      (tokensFrom? .code rest).map (.literal (String.ofList text) :: ·) := by
  induction cs generalizing mode before with
  | nil => cases read
  | cons c cs ih =>
    rw [StringLiteral.read?] at read
    rw [tokensFrom?]
    cases here : StringLiteral.step mode c with
    | none =>
      rw [here] at read
      cases read
    | some outcome =>
      rw [here] at read
      cases outcome with
      | closes =>
        cases read
        dsimp only
        rw [valid, Option.bind_some]
      | reads next more => exact ih read

theorem tokensFrom?_literal_append (text : String) (rest : List Char) :
    tokensFrom? .code ((Escape.literal text).toList ++ rest) =
      (tokensFrom? .code rest).map (.literal text :: ·) := by
  have read := StringLiteral.value?_literal text rest
  obtain ⟨cs, quoted⟩ : ∃ cs, (Escape.literal text).toList = '\'' :: cs :=
    ⟨_, by simp [Escape.literal]; rfl⟩
  rw [quoted, List.cons_append, StringLiteral.value?, if_pos rfl] at read
  rw [quoted, List.cons_append, tokensFrom?, if_pos rfl,
    tokensFrom?_literal read (StringLiteral.text?_units _), String.ofList_toList]

end Reader

section Plain

def loud : List Char := ['"', '&', '<', '\x60', '\u2028', '\u2029']

/-- The character stands for itself in an attribute and breaks no line. -/
def Quiet (c : Char) : Prop := c ∉ loud ∧ Text.isControl c = false

instance (c : Char) : Decidable (Quiet c) := inferInstanceAs (Decidable (_ ∧ _))

def Plain (c : Char) : Prop := c ∉ '\'' :: foreign ∧ Quiet c

instance (c : Char) : Decidable (Plain c) := inferInstanceAs (Decidable (_ ∧ _))

theorem tokensFrom?_append {cs : List Char} (h : ∀ c ∈ cs, Plain c) (rest : List Char) :
    tokensFrom? .code (cs ++ rest) = (tokensFrom? .code rest).map (cs.map .char ++ ·) := by
  induction cs with
  | nil => simp
  | cons c cs ih =>
    rw [List.forall_mem_cons] at h
    obtain ⟨quote, other⟩ := not_or.1 (List.mem_cons.not.1 h.1.1)
    have here : ¬ foreign.contains c = true := fun listed =>
      other (List.contains_iff_mem.1 listed)
    rw [List.cons_append, tokensFrom?, if_neg quote, if_neg here, ih h.2, Option.map_map]
    rfl

theorem Alphabet.plain_of_continues (a : Alphabet) {c : Char} (h : a.continues c = true) :
    Plain c := by
  have low (small : c.toNat < 0xa0) : (c.isAlphanum || c == '_' || c == '$') = true :=
    a.continues_low c small ▸ h
  have listed : c ∉ '\'' :: foreign ++ loud := fun mark => by
    have marks : (('\'' :: foreign ++ loud).all fun c => isSpace c ||
      decide (c.toNat < 0xa0) && !(c.isAlphanum || c == '_' || c == '$')) = true := by decide
    have here := List.all_eq_true.1 marks c mark
    rw [Bool.or_eq_true, Bool.and_eq_true, decide_eq_true_eq, Bool.not_eq_true'] at here
    rcases here with space | ⟨small, other⟩
    · rw [a.spaces c space] at h
      cases h
    · rw [low small] at other
      cases other
  have control : Text.isControl c = false := by
    rw [Text.isControl, Bool.or_eq_false_iff, Bool.and_eq_false_iff, decide_eq_false_iff_not,
      decide_eq_false_iff_not, decide_eq_false_iff_not]
    by_cases small : c.toNat < 0xa0
    · have name := low small
      rw [Bool.or_eq_true, Bool.or_eq_true, beq_iff_eq, beq_iff_eq] at name
      rcases name with (letter | rfl) | rfl
      · have := (Text.isAlphanum_iff c).1 letter
        omega
      · decide
      · decide
    · omega
  rw [List.cons_append, ← List.cons_append, List.mem_append, not_or] at listed
  exact ⟨listed.1, listed.2, control⟩

theorem plain_numeral (d : Double) : ∀ c ∈ (Numeral.text d).toList, Plain c := by
  refine Numeral.forall_text (fun c digit => Alphabet.low.plain_of_continues ?_)
    (List.all_iff_forall_prop.1 (by decide)) d
  change (c.isAlphanum || c == '_' || c == '$') = true
  rw [Text.isAlphanum_of_isDigit digit, Bool.true_or, Bool.true_or]

theorem quiet_literal (text : String) : ∀ c ∈ (Escape.literal text).toList, Quiet c := by
  have quotes : ∀ c ∈ "'".toList, Quiet c := List.all_iff_forall_prop.1 (by decide)
  rw [Escape.literal, String.toList_append, String.toList_append]
  refine List.forall_mem_append.2 ⟨List.forall_mem_append.2 ⟨quotes, fun d hd => ?_⟩, quotes⟩
  rw [StringLiteral.toList_script] at hd
  obtain ⟨c, -, hd⟩ := List.mem_flatMap.1 hd
  obtain ⟨allowed, control⟩ := (StringLiteral.escapes_scriptChar c).harmless d hd
  exact ⟨fun mark => allowed ((by decide : loud ⊆ StringLiteral.forbidden) mark), control⟩

end Plain

section Slots

/-- The parts of code: the name that a call goes to, fixed code, and places for literals. -/
inductive Slot where
  | receiver
  | code (source : String)
  | literal
deriving DecidableEq

def fill (receiver : String) : List Slot → List String → String
  | [], _ => ""
  | .receiver :: slots, texts => receiver ++ fill receiver slots texts
  | .code source :: slots, texts => source ++ fill receiver slots texts
  | .literal :: slots, [] => fill receiver slots []
  | .literal :: slots, text :: texts => Escape.literal text ++ fill receiver slots texts

def Slot.tokens (receiver : String) : Slot → List Token
  | .receiver => chars receiver
  | .code source => chars source
  | .literal => [.literal ""]

def Slot.IsPlain : Slot → Prop
  | .code source => ∀ c ∈ source.toList, Plain c
  | _ => True

instance : DecidablePred Slot.IsPlain
  | .receiver => inferInstanceAs (Decidable True)
  | .code _ => decidable_of_iff _ List.all_iff_forall_prop
  | .literal => inferInstanceAs (Decidable True)

section Fill

variable {receiver : String} {slots : List Slot}

theorem quiet_fill (named : ∀ c ∈ receiver.toList, Plain c)
    (plain : ∀ slot ∈ slots, slot.IsPlain) (texts : List String) :
    ∀ c ∈ (fill receiver slots texts).toList, Quiet c := by
  induction slots generalizing texts with
  | nil => exact List.forall_mem_nil _
  | cons slot slots ih =>
    rw [List.forall_mem_cons] at plain
    have rest := ih plain.2
    cases slot with
    | receiver =>
      rw [fill, String.toList_append, List.forall_mem_append]
      exact ⟨fun c hc => (named c hc).2, rest texts⟩
    | code source =>
      rw [fill, String.toList_append, List.forall_mem_append]
      exact ⟨fun c hc => (plain.1 c hc).2, rest texts⟩
    | literal =>
      cases texts with
      | nil => exact rest []
      | cons text texts =>
        rw [fill, String.toList_append, List.forall_mem_append]
        exact ⟨quiet_literal text, rest texts⟩

/-- The places and the texts to put there are equally many. -/
def Fits (slots : List Slot) (texts : List String) : Prop :=
  (slots.filter (· == .literal)).length = texts.length

/-- What is read is the code alone, and in its literals the texts one by one. -/
theorem tokens?_fill (named : ∀ c ∈ receiver.toList, Plain c)
    (plain : ∀ slot ∈ slots, slot.IsPlain) {values : List String}
    (fits : Fits slots values) :
    ∃ tokens, tokens? (fill receiver slots values) = some tokens ∧
      skeleton tokens = slots.flatMap (Slot.tokens receiver) ∧ texts tokens = values := by
  induction slots generalizing values with
  | nil =>
    cases List.length_eq_zero_iff.1 (Eq.symm fits)
    exact ⟨[], rfl, rfl, rfl⟩
  | cons slot slots ih =>
    rw [List.forall_mem_cons] at plain
    have code {source : String} (h : ∀ c ∈ source.toList, Plain c) (fits : Fits slots values) :
        ∃ tokens, tokens? (source ++ fill receiver slots values) = some tokens ∧
          skeleton tokens = chars source ++ slots.flatMap (Slot.tokens receiver) ∧
          texts tokens = values := by
      obtain ⟨tokens, read, same, values⟩ := ih plain.2 fits
      rw [tokens?] at read
      rw [tokens?, String.toList_append, tokensFrom?_append h, read, Option.map_some]
      refine ⟨_, rfl, ?_, ?_⟩
      · rw [skeleton, List.map_append, List.map_map, ← skeleton, same]
        rfl
      · rw [texts, List.filterMap_append, List.filterMap_map, ← texts, values]
        simp [Token.text?, Function.comp_def]
    cases slot with
    | receiver => exact code named fits
    | code source => exact code plain.1 fits
    | literal =>
      cases values with
      | nil => cases fits
      | cons text values =>
        obtain ⟨tokens, read, same, values⟩ := ih plain.2 (Nat.succ.inj fits)
        rw [tokens?] at read
        refine ⟨.literal text :: tokens, ?_, ?_, ?_⟩
        · rw [fill, tokens?, String.toList_append, tokensFrom?_literal_append, read,
            Option.map_some]
        · exact congrArg (Token.literal "" :: ·) same
        · exact congrArg (text :: ·) values

theorem fill_eq_intercalate (slots : List Slot) (texts : List String) :
    ∃ first others, ∀ receiver : String,
      fill receiver slots texts = receiver.intercalate (first :: others) := by
  induction slots generalizing texts with
  | nil => exact ⟨"", [], fun receiver => String.intercalate_singleton.symm⟩
  | cons slot slots ih =>
    cases slot with
    | receiver =>
      obtain ⟨first, others, same⟩ := ih texts
      refine ⟨"", first :: others, fun receiver => ?_⟩
      rw [fill, same, String.intercalate_cons_cons, String.empty_append]
    | code source =>
      obtain ⟨first, others, same⟩ := ih texts
      exact ⟨source ++ first, others, fun receiver => by
        rw [fill, same, String.intercalate_cons_append]⟩
    | literal =>
      cases texts with
      | nil => exact ih []
      | cons text texts =>
        obtain ⟨first, others, same⟩ := ih texts
        exact ⟨Escape.literal text ++ first, others, fun receiver => by
        rw [fill, same, String.intercalate_cons_append]⟩

end Fill

end Slots

end MiniApp.Code

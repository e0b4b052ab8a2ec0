import Mathlib.Data.List.TakeWhile
import Mathlib.Tactic.IntervalCases
import MiniApp.Json.Reader
import MiniApp.Json.Writer
import MiniApp.Proofs.Json.Fields

set_option autoImplicit false

namespace MiniApp.Json

section Strings

theorem readString_escape {esc rest : List Char} {d : Char} (h : readEscape esc = .ok (d, rest))
    (done : List Char) : readString done ('\\' :: esc) = readString (d :: done) rest := by
  rw [readString, if_neg (by decide), if_pos rfl]
  split
  · next stop fault =>
    rw [h] at fault
    cases fault
  · next d' rest' read =>
    rw [h] at read
    cases read
    rfl

theorem readUnicode_control {n : Nat} (h : n < 0x20) (rest : List Char) :
    readUnicode ((if n < 0x10 then '0' :: '0' :: '0' :: Text.hexDigits n
      else '0' :: '0' :: Text.hexDigits n) ++ rest) = .ok (Char.ofNat n, rest) := by
  interval_cases n <;> rfl

theorem readString_escapeChar (c : Char) (done rest : List Char) :
    readString done (escapeChar c ++ rest) = readString (c :: done) rest := by
  unfold escapeChar
  split
  iterate 7 exact readString_escape rfl done
  · next quote backslash _ _ _ _ _ =>
    have control (h : c.toNat < 0x20) := readUnicode_control h rest
    rw [Char.ofNat_toNat] at control
    split
    · next low =>
      have read := control (by omega)
      rw [if_pos low] at read
      exact readString_escape (show readEscape ('u' :: _) = _ from read) done
    split
    · next high low =>
      have read := control low
      rw [if_neg high] at read
      exact readString_escape (show readEscape ('u' :: _) = _ from read) done
    · next high =>
      rw [List.singleton_append, readString, if_neg quote, if_neg backslash, if_neg high]

theorem readString_flatMap (cs done rest : List Char) :
    readString done (cs.flatMap escapeChar ++ '"' :: rest) =
      .ok (String.ofList (done.reverse ++ cs), rest) := by
  induction cs generalizing done with
  | nil => rw [List.flatMap_nil, List.nil_append, readString, if_pos rfl, List.append_nil]
  | cons c cs ih =>
    rw [List.flatMap_cons, List.append_assoc, readString_escapeChar, ih, List.reverse_cons,
      List.append_assoc, List.singleton_append]

theorem readString_written (s : String) (rest : List Char) :
    readString [] (s.toList.flatMap escapeChar ++ '"' :: rest) = .ok (s, rest) := by
  rw [readString_flatMap, List.reverse_nil, List.nil_append, String.ofList_toList]

theorem toList_stringText (s : String) :
    (stringText s).toList = '"' :: (s.toList.flatMap escapeChar ++ ['"']) := by
  rw [stringText, String.toList_ofList, List.cons_append]

end Strings

section Run

def proceed : Except Stop Progress → Except Stop Json
  | .error stop => .error stop
  | .ok (.done v) => .ok v
  | .ok (.more next frames rest) => run next frames rest

theorem run_eq (expecting : Expecting) (frames : List Frame) (cs : List Char) :
    run expecting frames cs = proceed (step expecting frames cs) := by
  rw [run]
  split <;> next taken => exact (congrArg proceed taken).symm

theorem run_blanks {blanks : List Char} (blank : ∀ c ∈ blanks, isJsonBlank c = true)
    (expecting : Expecting) (frames : List Frame) (cs : List Char) :
    run expecting frames (blanks ++ cs) = run expecting frames cs := by
  rw [run_eq, run_eq, step, step, List.dropWhile_append_of_pos blank]

theorem run_cons {c : Char} (shows : isJsonBlank c = false) (expecting : Expecting)
    (frames : List Frame) (cs : List Char) :
    run expecting frames (c :: cs) = proceed (stepAt expecting frames c cs) := by
  have here : ¬ isJsonBlank c = true := by rw [shows]; exact Bool.false_ne_true
  rw [run_eq, step, List.dropWhile_cons_of_neg here]

/-- The text is read as the value wherever a value is expected, up to its end and no further, if
`height` more containers can be opened there. -/
def Spells (height : Nat) (cs : List Char) (v : Json) : Prop :=
  ∀ frames rest, frames.length + height ≤ depthLimit →
    run .value frames (cs ++ rest) = proceed (deliver v frames rest)

theorem Spells.mono {height height' : Nat} {cs : List Char} {v : Json} (h : Spells height cs v)
    (le : height ≤ height') : Spells height' cs v :=
  fun frames rest low => h frames rest (by omega)

theorem spells_string (s : String) : Spells 0 (stringText s).toList (.string s) := by
  intro frames rest _
  have quote : isJsonBlank '"' = false := by decide
  have read := readString_written s rest
  rw [toList_stringText, List.cons_append, List.append_assoc, List.singleton_append, run_cons quote,
    stepAt, startValue, if_pos rfl, read]

theorem spells_true : Spells 0 ['t', 'r', 'u', 'e'] (.bool true) := by
  intro frames rest _
  exact run_cons (by decide) .value frames _

/-- A text that is read as a value is the text of that value. -/
theorem Spells.readChars_eq {cs blanks : List Char} {v : Json} {height : Nat} (h : Spells height cs v)
    (low : height ≤ depthLimit) (blank : ∀ c ∈ blanks, isJsonBlank c = true) :
    readChars (cs ++ blanks) = .ok v := by
  have all := h [] blanks (by rwa [List.length_nil, Nat.zero_add])
  rw [deliver, List.dropWhile_eq_nil_iff.2 blank] at all
  rw [readChars, all]
  rfl

end Run

section Blocks

def lineStart (level : Nat) : List Char := '\n' :: List.replicate (2 * level) ' '

def fieldLine (level : Nat) (field : String × List Char) (rest : List Char) : List Char :=
  lineStart level ++ '"' :: (field.1.toList.flatMap escapeChar ++ '"' :: ':' :: ' ' :: (field.2 ++ rest))

def fieldLines (level : Nat) (rest : List Char) : List (String × List Char) → List Char
  | [] => rest
  | [field] => fieldLine level field rest
  | field :: fields => fieldLine level field (',' :: fieldLines level rest fields)

def block (level : Nat) (fields : List (String × List Char)) : List Char :=
  '{' :: fieldLines (level + 1) (lineStart level ++ ['}']) fields

def stringBlock (level : Nat) (entries : List (String × String)) : List Char :=
  block level (entries.map fun e => (e.1, (stringText e.2).toList))

theorem isJsonBlank_lineStart (level : Nat) : ∀ c ∈ lineStart level, isJsonBlank c = true := by
  intro c hc
  rcases List.mem_cons.1 hc with rfl | hc
  · rfl
  · rw [List.eq_of_mem_replicate hc]
    rfl

def SpellFields (height : Nat) : List (String × List Char) → Fields → Prop :=
  List.Forall₂ fun text field => text.1 = field.1 ∧ Spells height text.2 field.2

theorem run_fieldLine {height : Nat} {cs : List Char} {v : Json} (h : Spells height cs v)
    {frames : List Frame} (low : frames.length + 1 + height ≤ depthLimit) (level : Nat) (key : String)
    (done : Fields) (rest : List Char) :
    run (.key done) frames (fieldLine level (key, cs) rest) =
      run .separator (.fields (putField key v done) key :: frames) rest := by
  have quote : isJsonBlank '"' = false := by decide
  have colon : (':' :: ' ' :: (cs ++ rest)).dropWhile isJsonBlank = ':' :: ' ' :: (cs ++ rest) := rfl
  have blank : ∀ c ∈ [' '], isJsonBlank c = true := List.forall_mem_singleton.2 rfl
  have inner := (run_blanks blank .value (.fields done key :: frames) (cs ++ rest)).trans
    (h (.fields done key :: frames) rest (by rwa [List.length_cons]))
  rw [fieldLine, run_blanks (isJsonBlank_lineStart level), run_cons quote, stepAt,
    if_neg (by decide), startKey, if_pos rfl, readString_written]
  simp only [colon]
  exact inner

theorem run_fieldLines {height : Nat} {texts : List (String × List Char)} {fields : Fields}
    (h : SpellFields height texts fields) (shows : texts ≠ []) {frames : List Frame}
    (low : frames.length + 1 + height ≤ depthLimit) (level level' : Nat) (done : Fields)
    (rest : List Char) :
    run (.key done) frames (fieldLines level (lineStart level' ++ '}' :: rest) texts) =
      proceed (deliver (.object
        (fields.foldl (fun fields field => putField field.1 field.2 fields) done)) frames rest) := by
  have comma : isJsonBlank ',' = false := by decide
  have brace : isJsonBlank '}' = false := by decide
  induction h generalizing done with
  | nil => exact absurd rfl shows
  | @cons text field texts fields first others ih =>
    obtain ⟨key, cs⟩ := text
    obtain ⟨rfl, spelled⟩ := first
    cases texts with
    | nil =>
      cases others
      rw [fieldLines, run_fieldLine spelled low, run_blanks (isJsonBlank_lineStart level'),
        run_cons brace, stepAt, if_neg (by decide), if_pos rfl]
      rfl
    | cons next texts =>
      rw [fieldLines, run_fieldLine spelled low, run_cons comma, stepAt, if_pos rfl, proceed,
        ih (List.cons_ne_nil _ _), List.foldl_cons]
      exact List.cons_ne_nil _ _

theorem run_firstKey {texts : List (String × List Char)} (shows : texts ≠ []) (level : Nat)
    (frames : List Frame) (rest : List Char) :
    run (.firstKey []) frames (fieldLines level rest texts) =
      run (.key []) frames (fieldLines level rest texts) := by
  have quote : isJsonBlank '"' = false := by decide
  have line (text : String × List Char) (rest : List Char) :
      run (.firstKey []) frames (fieldLine level text rest) =
        run (.key []) frames (fieldLine level text rest) := by
    rw [fieldLine, run_blanks (isJsonBlank_lineStart level),
      run_blanks (isJsonBlank_lineStart level), run_cons quote, run_cons quote]
    rfl
  match texts with
  | [] => exact absurd rfl shows
  | [text] => exact line text rest
  | text :: next :: texts => exact line text _

theorem fieldLines_append (level : Nat) (rest more : List Char) (texts : List (String × List Char)) :
    fieldLines level rest texts ++ more = fieldLines level (rest ++ more) texts := by
  induction texts with
  | nil => rfl
  | cons text texts ih =>
    cases texts with
    | nil => simp [fieldLines, fieldLine]
    | cons => simp [fieldLines, fieldLine, ih]

theorem spells_block {height : Nat} {texts : List (String × List Char)} {fields : Fields}
    (h : SpellFields height texts fields) (shows : texts ≠ []) (level : Nat) :
    Spells (height + 1) (block level texts) (.object (sortFields fields)) := by
  intro frames rest low
  have brace : isJsonBlank '{' = false := by decide
  have room : ¬ depthLimit ≤ frames.length := by omega
  have text : block level texts ++ rest =
      '{' :: fieldLines (level + 1) (lineStart level ++ '}' :: rest) texts := by
    rw [block, List.cons_append, fieldLines_append, List.append_assoc, List.singleton_append]
  have opened : stepAt .value frames '{'
      (fieldLines (level + 1) (lineStart level ++ '}' :: rest) texts) =
        .ok (.more (.firstKey []) frames
          (fieldLines (level + 1) (lineStart level ++ '}' :: rest) texts)) := by
    rw [stepAt, startValue, if_neg (by decide), if_neg (by decide), if_pos rfl, openContainer,
      if_neg room]
    rfl
  rw [text, run_cons brace, opened, proceed, run_firstKey shows,
    run_fieldLines h shows (by omega)]
  rfl

theorem spells_stringBlock {entries : List (String × String)} (shows : entries ≠ []) (level : Nat) :
    Spells 1 (stringBlock level entries)
      (.object (sortFields (entries.map fun e => (e.1, .string e.2)))) := by
  refine spells_block ?_ (fun nil => shows (List.map_eq_nil_iff.1 nil)) level
  rw [SpellFields, List.forall₂_map_left_iff, List.forall₂_map_right_iff, List.forall₂_same]
  intro e _
  dsimp only
  exact ⟨rfl, spells_string e.2⟩

end Blocks

end MiniApp.Json

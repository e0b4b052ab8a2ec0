import MiniApp.Proofs.Code.Tokens
import MiniApp.Proofs.Table

/-!
Object literals of the scripting language. Keys are string literals or plain names, values are
string literals, plain words or objects, and a comma may stand behind the last entry. Evaluated, an entry
makes a property of the object, in the place of an earlier one of its key; the entry of one key makes
none, but names the prototype.
-/

set_option autoImplicit false

namespace MiniApp.Code

section Lines

/-- Reads lines of code one after the other. A break counts as a blank, and no literal reaches across
it. -/
def runLines (s : State) : List String → Option State
  | [] => some s
  | line :: lines =>
    match run (.code s) line.toList with
    | some (.code s) => runLines (s.add (.char ' ')) lines
    | _ => none

def readLines? (lines : List String) : Option (List Token) :=
  match runLines ⟨[], []⟩ lines with
  | some ⟨[], read⟩ => some read
  | _ => none

theorem Leads.runLines {line : String} {before after : List Char} {tokens : List Token}
    (h : Leads line before after tokens) (read : List Token) (lines : List String) :
    runLines ⟨before, read⟩ (line :: lines) =
      runLines ⟨after, read ++ (tokens ++ [Token.char ' '])⟩ lines := by
  have here := h [] read
  rw [List.append_nil, List.append_nil] at here
  rw [Code.runLines, here]
  simp [State.add]

def broken (tokens : List (List Token)) : List Token := tokens.flatMap (· ++ [.char ' '])

theorem runLines_append {lines : List String} {tokens : List (List Token)}
    (h : List.Forall₂ Reads lines tokens) (awaited : List Char) (read : List Token)
    (rest : List String) :
    Code.runLines ⟨awaited, read⟩ (lines ++ rest) =
      Code.runLines ⟨awaited, read ++ broken tokens⟩ rest := by
  induction h generalizing read with
  | nil => simp [broken]
  | @cons line ts lines tokens first _ ih =>
    rw [List.cons_append, (first.leads awaited).runLines, ih, broken, broken, List.flatMap_cons,
      List.append_assoc]

end Lines

inductive Literal where
  | text (value : String)
  | word (name : String)
  | object (entries : List (String × Literal))

namespace Literal

/-- What comes next in an object: a key, the rest of a name or the colon behind it, the value of a key or
the rest of a word, or the end of an entry. -/
inductive Place where
  | key
  | name (letters : List Char)
  | colon (key : String)
  | value (key : String)
  | word (key : String) (letters : List Char)
  | comma

/-- An object that is read: the objects around it, each with its entries so far and the key that
waits for its value, the own entries so far, and the place. -/
inductive Mode where
  | before
  | inside (outer : List (List (String × Literal) × String)) (entries : List (String × Literal))
      (place : Place)
  | behind (entries : List (String × Literal))

def isWordChar (c : Char) : Bool := c.isAlphanum || ['.', '+', '-', '_', '$'].contains c

def close (entries : List (String × Literal)) : List (List (String × Literal) × String) → Mode
  | [] => .behind entries
  | (around, key) :: outer => .inside outer (around ++ [(key, .object entries)]) .comma

def stepComma (outer : List (List (String × Literal) × String)) (entries : List (String × Literal))
    (c : Char) : Option Mode :=
  if c = ',' then some (.inside outer entries .key)
  else if c = '}' then some (close entries outer)
  else if c = ' ' then some (.inside outer entries .comma)
  else none

def step : Mode → Token → Option Mode
  | .before, .char c =>
    if c = '{' then some (.inside [] [] .key)
    else if c = ' ' then some .before
    else none
  | .inside outer entries .key, .literal s => some (.inside outer entries (.colon s))
  | .inside outer entries .key, .char c =>
    if c = '}' then some (close entries outer)
    else if c = ' ' then some (.inside outer entries .key)
    else if isWordChar c then some (.inside outer entries (.name [c]))
    else none
  | .inside outer entries (.name letters), .char c =>
    if c = ':' then some (.inside outer entries (.value (String.ofList letters)))
    else if c = ' ' then some (.inside outer entries (.colon (String.ofList letters)))
    else if isWordChar c then some (.inside outer entries (.name (letters ++ [c])))
    else none
  | .inside outer entries (.colon key), .char c =>
    if c = ':' then some (.inside outer entries (.value key))
    else if c = ' ' then some (.inside outer entries (.colon key))
    else none
  | .inside outer entries (.value key), .literal s =>
    some (.inside outer (entries ++ [(key, .text s)]) .comma)
  | .inside outer entries (.value key), .char c =>
    if c = '{' then some (.inside ((entries, key) :: outer) [] .key)
    else if c = ' ' then some (.inside outer entries (.value key))
    else if isWordChar c then some (.inside outer entries (.word key [c]))
    else none
  | .inside outer entries (.word key letters), .char c =>
    if isWordChar c then some (.inside outer entries (.word key (letters ++ [c])))
    else stepComma outer (entries ++ [(key, .word (String.ofList letters))]) c
  | .inside outer entries .comma, .char c => stepComma outer entries c
  | .behind entries, .char c => if c = ' ' then some (.behind entries) else none
  | _, .literal _ => none

def run (m : Mode) (tokens : List Token) : Option Mode := tokens.foldlM step m

/-- The object that some lines of code are. -/
def object? (lines : List String) : Option Literal :=
  match (readLines? lines).bind (run .before) with
  | some (.behind entries) => some (.object entries)
  | _ => none

/-- The entries that a line in an object holds, each with its comma. -/
def entries? (line : String) : Option (List (String × Literal)) :=
  match (read? line).bind (run (.inside [] [] .key)) with
  | some (.inside [] entries .key) => some entries
  | _ => none

example : (entries? "'a': \x7b b: 'c', d: 7 \x7d,").map List.length = some 1 := by rfl

section Run

variable {m m' m'' : Mode} {ts us : List Token}

theorem run_append (h : run m ts = some m') (us : List Token) : run m (ts ++ us) = run m' us := by
  rw [run, List.foldlM_append, ← run, h]
  rfl

theorem run_cons {t : Token} (h : step m t = some m') (ts : List Token) : run m (t :: ts) = run m' ts := by
  rw [run, List.foldlM_cons, h]
  rfl

theorem run_congr {t : Token} (h : step m t = step m' t) (ts : List Token) :
    run m (t :: ts) = run m' (t :: ts) := by
  rw [run, run, List.foldlM_cons, List.foldlM_cons, h]

theorem run_letters (mode : List Char → Mode) {cs : List Char}
    (h : ∀ c ∈ cs, ∀ letters, step (mode letters) (.char c) = some (mode (letters ++ [c])))
    (letters : List Char) (rest : List Token) :
    run (mode letters) (cs.map .char ++ rest) = run (mode (letters ++ cs)) rest := by
  induction cs generalizing letters with
  | nil => simp
  | cons c cs ih =>
    rw [List.forall_mem_cons] at h
    rw [List.map_cons, List.cons_append, run_cons (h.1 letters), ih h.2, List.append_assoc,
      List.singleton_append]

end Run

section Entries

def ends : List Char := [',', '}', ' ']

/-- Tokens in the place of a value are read as one, once its end is there. -/
def ReadsValue (tokens : List Token) (v : Literal) : Prop :=
  ∀ outer entries key, ∀ c ∈ ends, ∀ rest,
    run (.inside outer entries (.value key)) (tokens ++ .char c :: rest) =
      run (.inside outer (entries ++ [(key, v)]) .comma) (.char c :: rest)

def ReadsEntry (tokens : List Token) (entry : String × Literal) : Prop :=
  ∀ outer entries, ∀ c ∈ ends, ∀ rest,
    run (.inside outer entries .key) (tokens ++ .char c :: rest) =
      run (.inside outer (entries ++ [entry]) .comma) (.char c :: rest)

theorem readsValue_text (s : String) : ReadsValue [.literal s] (.text s) := fun _ _ _ _ _ _ => rfl

structure Unquoted (word : String) : Prop where
  shows : word ≠ ""
  letters : word.toList.all isWordChar = true

instance (word : String) : Decidable (Unquoted word) :=
  decidable_of_iff (word ≠ "" ∧ word.toList.all isWordChar = true)
    ⟨fun h => ⟨h.1, h.2⟩, fun h => ⟨h.shows, h.letters⟩⟩

theorem unquoted_numeral (d : Double) : Unquoted (Numeral.text d) where
  shows := Numeral.text_ne_empty d
  letters := by
    have marks : Numeral.marks.all isWordChar = true := by decide
    refine List.all_eq_true.2 (Numeral.forall_text (fun c hc => ?_) (List.all_eq_true.1 marks) d)
    simp [isWordChar, Char.isAlphanum, hc]

theorem Unquoted.inert {word : String} (h : Unquoted word) : Inert word := by
  have others : (specials.all fun c => !isWordChar c) = true := by decide
  refine fun c hc => decide_eq_true fun special => ?_
  have letter := List.all_eq_true.1 h.letters c hc
  simpa [letter] using List.all_eq_true.1 others c special

theorem ne_of_isWordChar {c d : Char} (hc : isWordChar c = true) (hd : isWordChar d = false) : c ≠ d :=
  fun same => Bool.false_ne_true (hd.symm.trans (same ▸ hc))

theorem Unquoted.toList_eq {word : String} (h : Unquoted word) :
    ∃ c cs, word.toList = c :: cs ∧ isWordChar c = true ∧ ∀ d ∈ cs, isWordChar d = true := by
  obtain ⟨c, cs, spelled⟩ := List.exists_cons_of_ne_nil fun nil => h.shows (String.toList_inj.1 nil)
  have letters := h.letters
  rw [spelled, List.all_eq_true, List.forall_mem_cons] at letters
  exact ⟨c, cs, spelled, letters⟩

theorem readsValue_word {word : String} (h : Unquoted word) : ReadsValue (chars word) (.word word) := by
  intro outer entries key c hc rest
  obtain ⟨d, ds, spelled, first, others⟩ := h.toList_eq
  have begins : step (.inside outer entries (.value key)) (.char d) =
      some (.inside outer entries (.word key [d])) := by
    rw [step, if_neg (ne_of_isWordChar first rfl), if_neg (ne_of_isWordChar first rfl), if_pos first]
  have goesOn : ∀ e ∈ ds, ∀ letters, step (.inside outer entries (.word key letters)) (.char e) =
      some (.inside outer entries (.word key (letters ++ [e]))) := fun e he letters => by
    rw [step, if_pos (others e he)]
  have stops : isWordChar c = false := by
    have known : (ends.all fun c => !isWordChar c) = true := by decide
    simpa using List.all_eq_true.1 known c hc
  have closes : step (.inside outer entries (.word key (d :: ds))) (.char c) =
      step (.inside outer (entries ++ [(key, Literal.word word)]) .comma) (.char c) := by
    rw [step, step, stops, if_neg Bool.false_ne_true, ← spelled, String.ofList_toList]
  rw [chars, spelled, List.map_cons, List.cons_append, run_cons begins,
    run_letters (fun letters => .inside outer entries (.word key letters)) goesOn,
    List.singleton_append, run_congr closes]

theorem readsEntry_name {name : String} (h : Unquoted name) {ts : List Token} {v : Literal}
    (hv : ReadsValue ts v) : ReadsEntry (chars name ++ chars ": " ++ ts) (name, v) := by
  intro outer entries c hc rest
  obtain ⟨d, ds, spelled, first, others⟩ := h.toList_eq
  have begins : step (.inside outer entries .key) (.char d) =
      some (.inside outer entries (.name [d])) := by
    rw [step, if_neg (ne_of_isWordChar first rfl), if_neg (ne_of_isWordChar first rfl), if_pos first]
  have goesOn : ∀ e ∈ ds, ∀ letters, step (.inside outer entries (.name letters)) (.char e) =
      some (.inside outer entries (.name (letters ++ [e]))) := fun e he letters => by
    rw [step, if_neg (ne_of_isWordChar (others e he) rfl), if_neg (ne_of_isWordChar (others e he) rfl),
      if_pos (others e he)]
  have colon : run (.inside outer entries (.name (d :: ds))) (chars ": ") =
      some (.inside outer entries (.value name)) := by
    rw [← String.ofList_toList (s := name), spelled]
    rfl
  rw [chars, spelled, List.map_cons, List.append_assoc, List.append_assoc, List.cons_append,
    run_cons begins, run_letters (fun letters => .inside outer entries (.name letters)) goesOn,
    List.singleton_append, run_append colon, hv outer entries name c hc rest]

theorem readsEntry_quoted (key : String) {ts : List Token} {v : Literal} (hv : ReadsValue ts v) :
    ReadsEntry ([Token.literal key] ++ chars ": " ++ ts) (key, v) := by
  intro outer entries c hc rest
  rw [← hv outer entries key c hc rest, List.append_assoc]
  rfl

theorem run_entries {parts : List (List Token)} {es : List (String × Literal)}
    (h : List.Forall₂ ReadsEntry parts es) (shows : es ≠ [])
    (outer : List (List (String × Literal) × String)) (entries : List (String × Literal))
    {c : Char} (hc : c ∈ ends) (rest : List Token) :
    run (.inside outer entries .key) (separated parts ++ .char c :: rest) =
      run (.inside outer (entries ++ es) .comma) (.char c :: rest) := by
  induction h generalizing entries with
  | nil => exact absurd rfl shows
  | @cons part e parts es first below ih =>
    cases below with
    | nil => simpa [separated] using first outer entries c hc rest
    | @cons part' e' parts es second below =>
      have comma : run (.inside outer (entries ++ [e]) .comma) (chars ", ") =
          some (.inside outer (entries ++ [e]) .key) := rfl
      have written : separated (part :: part' :: parts) ++ .char c :: rest =
          part ++ .char ',' :: .char ' ' :: (separated (part' :: parts) ++ .char c :: rest) := by
        rw [separated, List.intercalate_cons_cons, List.append_assoc, List.append_assoc]
        rfl
      calc run (.inside outer entries .key) (separated (part :: part' :: parts) ++ .char c :: rest)
          = run (.inside outer (entries ++ [e]) .comma)
              (chars ", " ++ (separated (part' :: parts) ++ .char c :: rest)) := by
            rw [written, first outer entries ',' (by decide)]
            rfl
        _ = run (.inside outer (entries ++ [e] ++ e' :: es) .comma) (.char c :: rest) := by
            rw [run_append comma, ih (List.cons_ne_nil _ _)]
        _ = run (.inside outer (entries ++ e :: e' :: es) .comma) (.char c :: rest) := by
            rw [List.append_assoc, List.singleton_append]

theorem readsValue_object {parts : List (List Token)} {es : List (String × Literal)}
    (h : List.Forall₂ ReadsEntry parts es) (shows : es ≠ []) :
    ReadsValue (chars "\x7b " ++ separated parts ++ chars " \x7d") (.object es) := by
  intro outer entries key c hc rest
  have opens : run (.inside outer entries (.value key)) (chars "\x7b ") =
      some (.inside ((entries, key) :: outer) [] .key) := rfl
  have closes : run (.inside ((entries, key) :: outer) es .comma) (chars " \x7d") =
      some (.inside outer (entries ++ [(key, Literal.object es)]) .comma) := rfl
  rw [List.append_assoc, List.append_assoc, run_append opens]
  change run _ (separated parts ++ .char ' ' :: (.char '}' :: .char c :: rest)) = _
  rw [run_entries h shows _ _ (by decide), List.nil_append]
  change run _ (chars " \x7d" ++ _) = _
  rw [run_append closes]

theorem run_object {parts : List (List Token)} {es : List (String × Literal)}
    (h : List.Forall₂ ReadsEntry parts es) (shows : es ≠ []) :
    run .before (chars "\x7b " ++ separated parts ++ chars " \x7d") = some (.behind es) := by
  have opens : run .before (chars "\x7b ") = some (.inside [] [] .key) := rfl
  rw [List.append_assoc, run_append opens]
  exact (run_entries h shows [] [] (by decide) _).trans rfl

theorem object?_line {code : String} {parts : List (List Token)} {es : List (String × Literal)}
    (written : Reads code (chars "\x7b " ++ separated parts ++ chars " \x7d"))
    (h : List.Forall₂ ReadsEntry parts es) (shows : es ≠ []) :
    object? [code] = some (.object es) := by
  have read : readLines? [code] =
      some (chars "\x7b " ++ (separated parts ++ chars " \x7d ")) := by
    rw [readLines?, written.runLines, runLines]
    simp [chars]
  have opens : run .before (chars "\x7b ") = some (.inside [] [] .key) := rfl
  have closes : run (.inside [] es .comma) (chars " \x7d ") = some (.behind es) := rfl
  have all : run (.inside [] [] .key) (separated parts ++ chars " \x7d ") = some (.behind es) :=
    (run_entries h shows [] [] (by decide) _).trans closes
  rw [object?, read, Option.bind_some, run_append opens, all]

theorem run_entryLines {parts : List (List Token)} {es : List (String × Literal)}
    (h : List.Forall₂ ReadsEntry parts es) (entries : List (String × Literal)) (rest : List Token) :
    run (.inside [] entries .key) (broken (parts.map (· ++ chars ",")) ++ rest) =
      run (.inside [] (entries ++ es) .key) rest := by
  induction h generalizing entries with
  | nil => simp [broken]
  | @cons part e parts es first _ ih =>
    have comma : run (.inside [] (entries ++ [e]) .comma) (chars ", ") =
        some (.inside [] (entries ++ [e]) .key) := rfl
    have written : broken ((part :: parts).map (· ++ chars ",")) ++ rest =
        part ++ .char ',' :: .char ' ' :: (broken (parts.map (· ++ chars ",")) ++ rest) := by
      simp [broken, chars]
    calc run (.inside [] entries .key) (broken ((part :: parts).map (· ++ chars ",")) ++ rest)
        = run (.inside [] (entries ++ [e]) .comma)
            (chars ", " ++ (broken (parts.map (· ++ chars ",")) ++ rest)) := by
          rw [written, first [] entries ',' (by decide)]
          rfl
      _ = run (.inside [] (entries ++ e :: es) .key) rest := by
          rw [run_append comma, ih, List.append_assoc, List.singleton_append]

theorem object?_lines {lines : List String} {parts : List (List Token)} {es : List (String × Literal)}
    (written : List.Forall₂ Reads lines (parts.map (· ++ chars ",")))
    (h : List.Forall₂ ReadsEntry parts es) :
    object? ("\x7b" :: (lines ++ ["\x7d"])) = some (.object es) := by
  have first : Leads "\x7b" [] ['}'] (chars "\x7b") := leads_of_run (by decide)
  have last : Leads "\x7d" ['}'] [] (chars "\x7d") := leads_of_run (by decide)
  have read : readLines? ("\x7b" :: (lines ++ ["\x7d"])) =
      some (chars "\x7b " ++ (broken (parts.map (· ++ chars ",")) ++ chars "\x7d ")) := by
    rw [readLines?, first.runLines, runLines_append written, last.runLines, runLines]
    simp [chars]
  have opens : run .before (chars "\x7b ") = some (.inside [] [] .key) := rfl
  have closes : run (.inside [] es .key) (chars "\x7d ") = some (.behind es) := rfl
  rw [object?, read, Option.bind_some, run_append opens, run_entryLines h, List.nil_append, closes]

end Entries

end Literal

section Evaluation

/-- A value of the scripting language: an object has properties of its own and, where one is named,
a prototype other than the usual one. -/
inductive Value where
  | text (value : String)
  | word (name : String)
  | object (own : List (String × Value)) (prototype : Option Value)

def Value.own? : Value → String → Option Value
  | .object own _, key => findEntry key own
  | _, _ => none

def Value.prototype? : Value → Option Value
  | .object _ prototype => prototype
  | _ => none

def prototypeKey : String := "__proto__"

/-- The prototype behind an entry that names it: nothing but an object or null can be one. -/
def Value.asPrototype (prototype : Option Value) : Value → Option Value
  | .text _ => prototype
  | .word name => if name = "null" then some (.word name) else prototype
  | .object own above => some (.object own above)

mutual

def Literal.value : Literal → Value
  | .text s => .text s
  | .word name => .word name
  | .object entries => Literal.valueOf [] none entries

def Literal.valueOf (own : List (String × Value)) (prototype : Option Value) :
    List (String × Literal) → Value
  | [] => .object own prototype
  | (key, v) :: entries =>
    if key = prototypeKey then Literal.valueOf own (v.value.asPrototype prototype) entries
    else Literal.valueOf (putEntry key v.value own) prototype entries

end

theorem Literal.valueOf_eq {own : List (String × Value)} (prototype : Option Value)
    {entries : List (String × Literal)} (apart : (own.map Prod.fst ++ entries.map Prod.fst).Nodup) :
    Literal.valueOf own prototype entries =
      .object (own ++ (entries.filter fun e => e.1 ≠ prototypeKey).map fun e => (e.1, e.2.value))
        (((entries.filter fun e => e.1 = prototypeKey).map fun e => e.2.value).foldl
          Value.asPrototype prototype) := by
  induction entries generalizing own prototype with
  | nil => simp [Literal.valueOf]
  | cons e entries ih =>
    obtain ⟨key, v⟩ := e
    have later : (own.map Prod.fst ++ entries.map Prod.fst).Nodup :=
      apart.sublist ((List.sublist_cons_self ..).append_left _)
    have grown : ((own ++ [(key, v.value)]).map Prod.fst ++ entries.map Prod.fst).Nodup := by
      simpa using apart
    have new : key ∉ own.map Prod.fst := fun listed =>
      (List.nodup_append.1 apart).2.2 key listed key List.mem_cons_self rfl
    rw [Literal.valueOf]
    split
    · next named =>
      rw [ih _ later]
      simp [named]
    · next other =>
      rw [putEntry_of_notMem new, ih _ grown]
      simp [other]

/-- Entries of distinct keys: each but the one that names the prototype makes a property. -/
theorem Literal.value_object {entries : List (String × Literal)} (apart : (entries.map Prod.fst).Nodup) :
    (Literal.object entries).value =
      .object ((entries.filter fun e => e.1 ≠ prototypeKey).map fun e => (e.1, e.2.value))
        (((entries.filter fun e => e.1 = prototypeKey).map fun e => e.2.value).foldl
          Value.asPrototype none) := by
  have nothing : ((([] : List (String × Value)).map Prod.fst) ++ entries.map Prod.fst).Nodup := apart
  rw [Literal.value, Literal.valueOf_eq none nothing, List.nil_append]

end Evaluation

end MiniApp.Code

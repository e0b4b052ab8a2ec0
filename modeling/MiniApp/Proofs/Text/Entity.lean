import Mathlib.Data.List.Basic
import Mathlib.Tactic.Common
import MiniApp.Escape
import MiniApp.Json.Token

/-!
# Escaped text stands for the text that it was made from

What a browser makes of the character references in a text: of the names that stand behind an
ampersand the longest one counts, with or without a semicolon at its end, a number may be decimal or
hexadecimal, and an ampersand that starts no reference stands for itself. All three escapings of
text are undone by this decoder, whatever references the text seems to hold already.
-/

set_option autoImplicit false

namespace MiniApp.Entity

section Decoder

/-- The named references of a language, each with the semicolon that it may have at its end. -/
structure Names where
  entries : List (List Char × List Char)
  amp : entries.lookup ['a', 'm', 'p', ';'] = some ['&']
  lt : entries.lookup ['l', 't', ';'] = some ['<']
  gt : entries.lookup ['g', 't', ';'] = some ['>']
  quot : entries.lookup ['q', 'u', 'o', 't', ';'] = some ['"']
  ends : ∀ e ∈ entries, ';' ∉ e.1.dropLast

/-- The longest name that a text goes on with after some letters, and what it stands for. -/
def Names.longest? (names : Names) (seen : List Char) : List Char → Option (List Char × List Char)
  | [] => none
  | c :: cs =>
    (names.longest? (seen ++ [c]) cs).or
      ((names.entries.lookup (seen ++ [c])).map fun value => (seen ++ [c], value))

inductive Place where
  | content | value

/-- In a value a name without a semicolon is no reference when a word goes on. -/
def Place.refuses (place : Place) (name behind : List Char) : Bool :=
  match place with
  | .content => false
  | .value =>
    name.getLast? ≠ some ';' && behind.head?.any fun c => c.isAlphanum || c == '='

def remapped : List (Nat × Nat) :=
  [(0x80, 0x20ac), (0x82, 0x201a), (0x83, 0x0192), (0x84, 0x201e), (0x85, 0x2026), (0x86, 0x2020),
    (0x87, 0x2021), (0x88, 0x02c6), (0x89, 0x2030), (0x8a, 0x0160), (0x8b, 0x2039),
    (0x8c, 0x0152), (0x8e, 0x017d), (0x91, 0x2018), (0x92, 0x2019), (0x93, 0x201c),
    (0x94, 0x201d), (0x95, 0x2022), (0x96, 0x2013), (0x97, 0x2014), (0x98, 0x02dc),
    (0x99, 0x2122), (0x9a, 0x0161), (0x9b, 0x203a), (0x9c, 0x0153), (0x9e, 0x017e),
    (0x9f, 0x0178)]

def numbered (n : Nat) : Char :=
  match remapped.lookup n with
  | some m => Char.ofNat m
  | none => if n ≠ 0 ∧ n.isValidChar then Char.ofNat n else '\ufffd'

def digits (base : Nat) : List Char → List Nat
  | [] => []
  | c :: cs =>
    match Json.hexValue? c with
    | some d => if d < base then d :: digits base cs else []
    | none => []

/-- The reference by a number that a text starts with, and how many characters it takes. -/
def number? (base : Nat) (cs : List Char) : Option (List Char × Nat) :=
  match digits base cs with
  | [] => none
  | d :: ds =>
    let taken := (d :: ds).length
    some ([numbered ((d :: ds).foldl (fun n d => base * n + d) 0)],
      if cs[taken]? = some ';' then taken + 1 else taken)

/-- What the reference behind an ampersand stands for, and how many characters it takes. -/
def Names.reference? (names : Names) (place : Place) : List Char → Option (List Char × Nat)
  | '#' :: c :: cs =>
    if c = 'x' ∨ c = 'X' then (number? 16 cs).map fun r => (r.1, r.2 + 2)
    else (number? 10 (c :: cs)).map fun r => (r.1, r.2 + 1)
  | cs =>
    match names.longest? [] cs with
    | some (name, value) =>
      if place.refuses name (cs.drop name.length) then none else some (value, name.length)
    | none => none

def Names.decode (names : Names) (place : Place) : Nat → List Char → List Char
  | _, [] => []
  | taken + 1, _ :: cs => names.decode place taken cs
  | 0, c :: cs =>
    if c = '&' then
      match names.reference? place cs with
      | some (value, taken) => value ++ names.decode place taken cs
      | none => c :: names.decode place 0 cs
    else c :: names.decode place 0 cs

def Names.decoded (names : Names) (place : Place) (text : String) : String :=
  String.ofList (names.decode place 0 text.toList)

def Names.common : Names where
  entries := [(['a', 'm', 'p', ';'], ['&']), (['a', 'm', 'p'], ['&']), (['l', 't', ';'], ['<']),
    (['l', 't'], ['<']), (['g', 't', ';'], ['>']), (['g', 't'], ['>']),
    (['q', 'u', 'o', 't', ';'], ['"']), (['q', 'u', 'o', 't'], ['"']),
    (['a', 'p', 'o', 's', ';'], ['\'']), (['c', 'o', 'p', 'y', ';'], ['\u00a9']),
    (['c', 'o', 'p', 'y'], ['\u00a9']), (['c', 'o', 'p', 'y', 's', 'r', ';'], ['\u2117'])]
  amp := rfl
  lt := rfl
  gt := rfl
  quot := rfl
  ends := by decide

example : Names.common.decoded .content "&ltb &copysr; &#x41;&#66 &amp;lt; &x" =
    "<b \u2117 AB &lt; &x" := by rfl

example : Names.common.decoded .value "?a&copy=1&lt;" = "?a&copy=1<" := by rfl

end Decoder

section Reading

variable (names : Names) (place : Place)

theorem decode_append (taken cs : List Char) :
    names.decode place taken.length (taken ++ cs) = names.decode place 0 cs := by
  induction taken with
  | nil => rfl
  | cons c taken ih => exact ih

theorem decode_plain {c : Char} (h : c ≠ '&') (cs : List Char) :
    names.decode place 0 (c :: cs) = c :: names.decode place 0 cs := by
  rw [Names.decode, if_neg h]

/-- The text is read as the character, wherever it stands and whatever goes on behind it. -/
def Stands (text : List Char) (c : Char) : Prop :=
  ∀ (names : Names) (place : Place) (rest : List Char),
    names.decode place 0 (text ++ rest) = c :: names.decode place 0 rest

theorem stands_of_reference {letters : List Char} {c : Char}
    (h : ∀ names place rest,
      Names.reference? names place (letters ++ rest) = some ([c], letters.length)) :
    Stands ('&' :: letters) c := by
  intro names place rest
  rw [List.cons_append, Names.decode, if_pos rfl, h]
  exact congrArg (c :: ·) (decode_append names place letters rest)

section Named

variable {names place}

theorem lookup_behind_semicolon (name : List Char) {more : List Char} (h : more ≠ []) :
    names.entries.lookup (name ++ ';' :: more) = none := by
  rw [List.lookup_eq_none_iff]
  rintro ⟨known, value⟩ listed
  refine bne_iff_ne.2 fun same => names.ends _ listed ?_
  rw [← same, List.dropLast_append_cons, List.dropLast_cons_of_ne_nil h]
  exact List.mem_append_right _ List.mem_cons_self

theorem longest?_eq_none {seen : List Char} (cs : List Char)
    (h : ∀ more ≠ [], names.entries.lookup (seen ++ more) = none) :
    names.longest? seen cs = none := by
  induction cs generalizing seen with
  | nil => rfl
  | cons c cs ih =>
    rw [Names.longest?, h [c] (List.cons_ne_nil _ _), ih]
    · rfl
    · intro more _
      rw [List.append_assoc]
      exact h _ (List.cons_ne_nil _ _)

/-- A name is longest when it ends in a semicolon: none goes on behind one. -/
theorem longest?_eq {seen name value : List Char}
    (h : names.entries.lookup (seen ++ name ++ [';']) = some value) (rest : List Char) :
    names.longest? seen (name ++ ';' :: rest) = some (seen ++ name ++ [';'], value) := by
  induction name generalizing seen with
  | nil =>
    have last : names.longest? (seen ++ [';']) rest = none := by
      refine longest?_eq_none rest fun more shows => ?_
      rw [List.append_assoc]
      exact lookup_behind_semicolon seen shows
    rw [List.append_nil] at h ⊢
    rw [List.nil_append, Names.longest?, last, h]
    rfl
  | cons c name ih =>
    have below : names.longest? (seen ++ [c]) (name ++ ';' :: rest) =
        some (seen ++ [c] ++ name ++ [';'], value) := ih (by simpa using h)
    rw [List.cons_append, Names.longest?, below]
    simp

theorem stands_named {c d : Char} (name : List Char) (letter : c ≠ '#')
    (h : ∀ names : Names, names.entries.lookup (c :: name ++ [';']) = some [d]) :
    Stands ('&' :: (c :: name ++ [';'])) d := by
  refine stands_of_reference fun names place rest => ?_
  have found : names.longest? [] (c :: name ++ ';' :: rest) =
      some (c :: name ++ [';'], [d]) := longest?_eq (h names) rest
  have complete : place.refuses (c :: name ++ [';'])
      ((c :: name ++ ';' :: rest).drop (c :: name ++ [';']).length) = false := by
    cases place with
    | content => rfl
    | value =>
      rw [Place.refuses, List.getLast?_concat]
      rfl
  have written : c :: name ++ [';'] ++ rest = c :: name ++ ';' :: rest := by simp
  rw [written, Names.reference?, found]
  · simp only [complete]
    rfl
  · intro _ _ same
    exact letter (List.cons.inj same).1

end Named

end Reading

section Escaping

variable (references : List (Char × String))

def written (c : Char) : List Char := ((references.lookup c).map String.toList).getD [c]

/-- The references of the table stand for its characters, and the characters of the table stand
in no reference but for the ampersand that starts it. -/
structure Sound : Prop where
  amp : ∃ r ∈ references, r.1 = '&'
  found : ∀ r ∈ references, references.lookup r.1 = some r.2
  stands : ∀ r ∈ references, Stands r.2.toList r.1
  shape : ∀ r ∈ references, r.2.toList.head? = some '&' ∧
    ∀ other ∈ references, other.1 ∉ r.2.toList.tail

variable {references}

theorem lookup_of_forall_ne {c : Char} (other : ∀ r ∈ references, c ≠ r.1) :
    references.lookup c = none :=
  List.lookup_eq_none_iff.2 fun r hr => bne_iff_ne.2 (other r hr)

theorem written_of_forall_ne {c : Char} (other : ∀ r ∈ references, c ≠ r.1) :
    written references c = [c] := by
  rw [written, lookup_of_forall_ne other]
  rfl

theorem written_append {others : List (Char × String)} {c : Char}
    (other : ∀ r ∈ others, c ≠ r.1) : written (references ++ others) c = written references c := by
  rw [written, List.lookup_append, lookup_of_forall_ne other, Option.or_none, written]

variable (references) in
theorem written_cases (c : Char) :
    written references c = [c] ∧ (∀ r ∈ references, c ≠ r.1) ∨
      ∃ r ∈ references, r.1 = c ∧ written references c = r.2.toList := by
  cases found : references.lookup c with
  | none =>
    have other : ∀ r ∈ references, c ≠ r.1 := fun r hr =>
      bne_iff_ne.1 (List.lookup_eq_none_iff.1 found r hr)
    exact .inl ⟨written_of_forall_ne other, other⟩
  | some text =>
    obtain ⟨before, behind, split, -⟩ := List.lookup_eq_some_iff.1 found
    refine .inr ⟨(c, text), ?_, rfl, by rw [written, found]; rfl⟩
    rw [split]
    exact List.mem_append_right _ List.mem_cons_self

theorem Sound.spelled (sound : Sound references) {r : Char × String} (hr : r ∈ references) :
    ∃ letters, r.2.toList = '&' :: letters ∧ ∀ other ∈ references, other.1 ∉ letters := by
  obtain ⟨start, inner⟩ := sound.shape r hr
  obtain ⟨letters, spelled⟩ := List.head?_eq_some_iff.1 start
  rw [spelled, List.tail_cons] at inner
  exact ⟨letters, spelled, inner⟩

/-- Every ampersand in what is written starts a reference of the table. -/
theorem Sound.closed (sound : Sound references) {cs before behind : List Char}
    (h : cs.flatMap (written references) = before ++ '&' :: behind) :
    ∃ r ∈ references, r.2.toList <+: '&' :: behind := by
  obtain ⟨amp, listed, same⟩ := sound.amp
  induction cs generalizing before with
  | nil => simp at h
  | cons c cs ih =>
    rw [List.flatMap_cons] at h
    obtain ⟨self, other⟩ | ⟨r, hr, rfl, reference⟩ := written_cases references c
    · rw [self, List.singleton_append] at h
      cases before with
      | nil => exact absurd ((List.cons.inj h).1.trans same.symm) (other amp listed)
      | cons b before => exact ih (List.cons.inj h).2
    · obtain ⟨letters, spelled, inner⟩ := sound.spelled hr
      have plain : '&' ∉ letters := same ▸ inner amp listed
      rw [reference, spelled, List.cons_append] at h
      cases before with
      | nil =>
        refine ⟨r, hr, ?_⟩
        rw [spelled, ← List.nil_append ('&' :: behind), ← h]
        exact List.prefix_append _ _
      | cons b before =>
        obtain ⟨more, -, rest⟩ | ⟨more, split, rest⟩ :=
          List.append_eq_append_iff.1 (List.cons.inj h).2
        · exact ih rest
        · cases more with
          | nil => exact @ih [] rest.symm
          | cons d more =>
            refine absurd ?_ plain
            rw [split, (List.cons.inj rest).1]
            exact List.mem_append_right _ List.mem_cons_self

theorem Sound.absent (sound : Sound references) {cs : List Char} {c : Char}
    (h : c ∈ cs.flatMap (written references)) : c = '&' ∨ ∀ r ∈ references, c ≠ r.1 := by
  obtain ⟨d, -, h⟩ := List.mem_flatMap.1 h
  obtain ⟨self, other⟩ | ⟨r, hr, rfl, reference⟩ := written_cases references d
  · rw [self, List.mem_singleton] at h
    exact .inr (h ▸ other)
  · obtain ⟨letters, spelled, inner⟩ := sound.spelled hr
    rw [reference, spelled, List.mem_cons] at h
    exact h.imp_right fun within other listed same => inner other listed (same ▸ within)

theorem Sound.decode_written (sound : Sound references) (names : Names) (place : Place)
    (cs : List Char) : names.decode place 0 (cs.flatMap (written references)) = cs := by
  induction cs with
  | nil => rfl
  | cons c cs ih =>
    rw [List.flatMap_cons]
    obtain ⟨self, other⟩ | ⟨r, hr, rfl, reference⟩ := written_cases references c
    · obtain ⟨amp, listed, same⟩ := sound.amp
      have plain : c ≠ '&' := fun h => other amp listed (h.trans same.symm)
      rw [self, List.singleton_append, decode_plain names place plain, ih]
    · rw [reference, sound.stands r hr, ih]

/-- What an escaping by references gives for every text. -/
structure Encodes (escape : String → String) (references : List (Char × String)) : Prop where
  /-- Each reference of the table is what the escaping writes for its character. -/
  writes : ∀ r ∈ references, escape (String.ofList [r.1]) = r.2
  lossless : ∀ (names : Names) (place : Place) text, names.decoded place (escape text) = text
  /-- What looks like a reference is not read as one. -/
  verbatim : ∀ (names : Names) (place : Place) text, names.decoded place text ≠ text →
    names.decoded place (escape text) ≠ names.decoded place text
  absent : ∀ text, ∀ c ∈ (escape text).toList, c ≠ '&' → ∀ r ∈ references, c ≠ r.1
  closed : ∀ text before behind, (escape text).toList = before ++ '&' :: behind →
    ∃ r ∈ references, r.2.toList <+: '&' :: behind

theorem Sound.encodes (sound : Sound references) {f : Char → List Char}
    (h : ∀ c, f c = written references c) : Encodes (Escape.each f) references := by
  have chars (text : String) :
      (Escape.each f text).toList = text.toList.flatMap (written references) := by
    rw [Escape.toList_each, funext h]
  have lossless (names : Names) (place : Place) (text : String) :
      names.decoded place (Escape.each f text) = text := by
    rw [Names.decoded, chars, sound.decode_written, String.ofList_toList]
  refine ⟨fun r hr => ?_, lossless, fun names place text seems => ?_, fun text c hc amp => ?_,
    fun text before behind split => ?_⟩
  · rw [← String.toList_inj, chars, String.toList_ofList, List.flatMap_singleton, written,
      sound.found r hr]
    rfl
  · rw [lossless]
    exact seems.symm
  · rw [chars] at hc
    exact (sound.absent hc).resolve_left amp
  · rw [chars] at split
    exact sound.closed split

end Escaping

section Tables

def markup : List (Char × String) :=
  [('&', "&amp;"), ('<', "&lt;"), ('>', "&gt;"), ('"', "&quot;"), ('\'', "&#39;")]

def breaks : List (Char × String) := [('\n', "&#10;"), ('\r', "&#13;"), ('\t', "&#9;")]

def braces : List (Char × String) := [('\x7b', "&#123;"), ('\x7d', "&#125;")]

theorem stands_markup : ∀ r ∈ markup, Stands r.2.toList r.1 := by
  have number : Stands "&#39;".toList '\'' := stands_of_reference fun _ _ _ => rfl
  simp only [markup, List.forall_mem_cons]
  exact ⟨stands_named ['m', 'p'] (by decide) Names.amp,
    stands_named ['t'] (by decide) Names.lt,
    stands_named ['t'] (by decide) Names.gt,
    stands_named ['u', 'o', 't'] (by decide) Names.quot, number, List.forall_mem_nil _⟩

theorem stands_breaks : ∀ r ∈ breaks, Stands r.2.toList r.1 := by
  simp only [breaks, List.forall_mem_cons]
  exact ⟨stands_of_reference fun _ _ _ => rfl, stands_of_reference fun _ _ _ => rfl,
    stands_of_reference fun _ _ _ => rfl, List.forall_mem_nil _⟩

theorem stands_braces : ∀ r ∈ braces, Stands r.2.toList r.1 := by
  simp only [braces, List.forall_mem_cons]
  exact ⟨stands_of_reference fun _ _ _ => rfl, stands_of_reference fun _ _ _ => rfl,
    List.forall_mem_nil _⟩

theorem sound_markup : Sound markup :=
  ⟨by decide, by decide, stands_markup, by decide⟩

theorem sound_attribute : Sound (markup ++ breaks) :=
  ⟨by decide, by decide, List.forall_mem_append.2 ⟨stands_markup, stands_breaks⟩, by decide⟩

theorem sound_jsx : Sound (markup ++ braces) :=
  ⟨by decide, by decide, List.forall_mem_append.2 ⟨stands_markup, stands_braces⟩, by decide⟩

theorem markupChar_eq (c : Char) : Escape.markupChar c = written markup c := by
  unfold Escape.markupChar
  split
  iterate 5 rfl
  · next _ amp lt gt quot apos =>
    refine (written_of_forall_ne ?_).symm
    simpa [markup] using ⟨amp, lt, gt, quot, apos⟩

theorem attributeChar_eq (c : Char) : Escape.attributeChar c = written (markup ++ breaks) c := by
  unfold Escape.attributeChar
  split
  iterate 3 rfl
  · next _ lf cr tab =>
    rw [markupChar_eq, written_append]
    simpa [breaks] using ⟨lf, cr, tab⟩

theorem jsxChar_eq (c : Char) : Escape.jsxChar c = written (markup ++ braces) c := by
  unfold Escape.jsxChar
  split
  iterate 2 rfl
  · next _ opens closes =>
    rw [markupChar_eq, written_append]
    simpa [braces] using ⟨opens, closes⟩

theorem attributeValue_eq (text : String) :
    Escape.attributeValue text = Escape.each (written breaks) (Escape.markup text) := by
  have twice (c : Char) :
      (Escape.markupChar c).flatMap (written breaks) = Escape.attributeChar c := by
    unfold Escape.attributeChar
    split
    iterate 3 rfl
    · next _ lf cr tab =>
      unfold Escape.markupChar
      split
      iterate 5 rfl
      · rw [List.flatMap_singleton, written_of_forall_ne]
        simpa [breaks] using ⟨lf, cr, tab⟩
  rw [Escape.attributeValue, Escape.markup, Escape.each, Escape.each, Escape.toList_each,
    List.flatMap_assoc, funext twice]

end Tables

/-- The three escapings of text lose nothing and leave nothing open: markup characters are written
as references everywhere, breaks in attributes, braces in JSX. The escaping of attributes is a
second one over escaped text, and yet the references of the two do not meet. -/
theorem entities_lossless :
    Encodes Escape.markup markup ∧ Encodes Escape.attributeValue (markup ++ breaks) ∧
      Encodes Escape.jsx (markup ++ braces) ∧
      ∀ text, Escape.attributeValue text = Escape.each (written breaks) (Escape.markup text) :=
  ⟨sound_markup.encodes markupChar_eq, sound_attribute.encodes attributeChar_eq,
    sound_jsx.encodes jsxChar_eq, attributeValue_eq⟩

example : Names.common.decoded .value (Escape.attributeValue "&amp; &#10;\n<") =
    "&amp; &#10;\n<" := by rfl

end MiniApp.Entity

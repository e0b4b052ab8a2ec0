import Mathlib.Data.List.Basic
import MiniApp.Json.Token
import MiniApp.Proofs.Code.Reader
import MiniApp.Proofs.Source.Scanner

set_option autoImplicit false

namespace MiniApp.Parse

open Scanner

inductive Value where
  | text (value : String)
  | flag
  | expr (tokens : List Code.Token)
deriving DecidableEq

structure StartTag where
  name : String
  attrs : List (String × Value)
deriving DecidableEq

inductive Piece where
  | char (c : Char)
  | opening (tag : StartTag)
  | selfClosing (tag : StartTag)
  | closing (name : String)
deriving DecidableEq

def StartTag.push (t : StartTag) (a : String × Value) : StartTag :=
  { t with attrs := t.attrs ++ [a] }

def StartTag.add (t : StartTag) (name : List Char) (value : Value) : StartTag :=
  t.push (String.ofList name, value)

section References

def named : List (List Char × Char) :=
  [(['a', 'm', 'p'], '&'), (['l', 't'], '<'), (['g', 't'], '>'), (['q', 'u', 'o', 't'], '"'),
    (['a', 'p', 'o', 's'], '\'')]

def numeral? (base : Nat) (digits : List Char) : Option Nat :=
  digits.foldlM (fun n c => (Json.hexValue? c).bind fun d =>
    if d < base then some (base * n + d) else none) 0

def charOf? (n : Nat) : Option Char := if n.isValidChar then some (Char.ofNat n) else none

def reference? : List Char → Option Char
  | '#' :: 'x' :: d :: ds => (numeral? 16 (d :: ds)).bind charOf?
  | '#' :: d :: ds => (numeral? 10 (d :: ds)).bind charOf?
  | letters => named.lookup letters

def isReferenceChar (c : Char) : Bool := c.isAlphanum || c == '#'

end References

def nameEnds : List Char := ['"', '\'', '<', '>', '/', '=', '&', '\x7b', '\x7d']

def isNameChar (c : Char) : Bool := !Text.isBlank c && !nameEnds.contains c

inductive Mode where
  | text
  | textReference (letters : List Char)
  | tagStart
  | closingName (name : List Char)
  | tagName (name : List Char)
  | attrName (tag : StartTag) (name : List Char)
  | valueStart (tag : StartTag) (name : List Char)
  | value (tag : StartTag) (name value : List Char)
  | valueReference (tag : StartTag) (name value letters : List Char)
  | expr (tag : StartTag) (name : List Char) (code : Code.Mode)
  | valueEnd (tag : StartTag)
  | slash (tag : StartTag)

def stepTag (tag : StartTag) (c : Char) : Option (Mode × List Piece) :=
  if c = ' ' then some (.attrName tag [], [])
  else if c = '>' then some (.text, [.opening tag])
  else none

/-- An expression goes on for as long as its code does; the brace that cannot be a part of it ends
it. -/
def stepExpr (tag : StartTag) (name : List Char) (code : Code.Mode) (c : Char) :
    Option (Mode × List Piece) :=
  match Code.step code c, code.complete? with
  | some code', _ => some (.expr tag name code', [])
  | none, some tokens =>
    if c = '\x7d' then some (.valueEnd (tag.add name (.expr tokens)), []) else none
  | none, none => none

def step (expressions : Bool) : Step Mode Piece
  | .text, c =>
    if c = '<' then some (.tagStart, [])
    else if c = '&' then some (.textReference [], [])
    else if expressions && ['>', '\x7b', '\x7d'].contains c then none
    else some (.text, [.char c])
  | .textReference letters, c =>
    if c = ';' then (reference? letters).map fun r => (.text, [.char r])
    else if isReferenceChar c then some (.textReference (letters ++ [c]), [])
    else none
  | .tagStart, c =>
    if c = '/' then some (.closingName [], [])
    else if isNameChar c then some (.tagName [c], [])
    else none
  | .closingName name, c =>
    if isNameChar c then some (.closingName (name ++ [c]), [])
    else if c = '>' then some (.text, [.closing (String.ofList name)])
    else none
  | .tagName name, c =>
    if isNameChar c then some (.tagName (name ++ [c]), [])
    else stepTag ⟨String.ofList name, []⟩ c
  | .attrName tag name, c =>
    if isNameChar c then some (.attrName tag (name ++ [c]), [])
    else if name = [] then if expressions && c == '/' then some (.slash tag, []) else none
    else if c = '=' then some (.valueStart tag name, [])
    else stepTag (tag.add name .flag) c
  | .valueStart tag name, c =>
    if c = '"' then some (.value tag name [], [])
    else if expressions && c == '\x7b' then some (.expr tag name Code.start, [])
    else none
  | .value tag name value, c =>
    if c = '"' then some (.valueEnd (tag.add name (.text (String.ofList value))), [])
    else if c = '&' then some (.valueReference tag name value [], [])
    else some (.value tag name (value ++ [c]), [])
  | .valueReference tag name value letters, c =>
    if c = ';' then (reference? letters).map fun r => (.value tag name (value ++ [r]), [])
    else if isReferenceChar c then some (.valueReference tag name value (letters ++ [c]), [])
    else none
  | .expr tag name code, c => stepExpr tag name code c
  | .valueEnd tag, c => stepTag tag c
  | .slash tag, c => if c = '>' then some (.text, [.selfClosing tag]) else none

/-- The reader goes over some characters outside of all tags, and takes them for such pieces. -/
def Takes (expressions : Bool) (cs : List Char) (pieces : List Piece) : Prop :=
  scan (step expressions) .text cs = some (.text, pieces)

def pieces? (expressions : Bool) (s : String) : Option (List Piece) :=
  match scan (step expressions) .text (s.toList ++ ['\n']) with
  | some (.text, pieces) => some pieces
  | _ => none

example : pieces? false "<b title=\"x &amp; y\">\x7b</b>" =
    some [.opening ⟨"b", [("title", .text "x & y")]⟩, .char '\x7b', .closing "b", .char '\n'] := by
  rfl

example : pieces? true "<a b=\x7bf('\x7d')\x7d />" =
    some [.selfClosing ⟨"a", [("b", .expr [.char 'f', .char '(', .literal "\x7d", .char ')'])]⟩,
      .char '\n'] := by rfl

variable {expressions : Bool}

theorem Takes.pieces?_eq {s : String} {pieces : List Piece}
    (h : Takes expressions (s.toList ++ ['\n']) pieces) : pieces? expressions s = some pieces := by
  rw [pieces?, h]

theorem takes_nil : Takes expressions [] [] := rfl

theorem Takes.append {as bs : List Char} {ps qs : List Piece} (ha : Takes expressions as ps)
    (hb : Takes expressions bs qs) : Takes expressions (as ++ bs) (ps ++ qs) := scan_append ha hb

theorem takes_flatMap {α : Type} {xs : List α} {chars : α → List Char} {pieces : α → List Piece}
    (h : ∀ x ∈ xs, Takes expressions (chars x) (pieces x)) :
    Takes expressions (xs.flatMap chars) (xs.flatMap pieces) := by
  induction xs with
  | nil => exact takes_nil
  | cons x xs ih =>
    rw [List.forall_mem_cons] at h
    exact h.1.append (ih h.2)

structure PlainName (name : String) : Prop where
  shows : name.toList ≠ []
  chars : name.toList.all isNameChar = true

instance (name : String) : Decidable (PlainName name) :=
  decidable_of_iff (name.toList ≠ [] ∧ name.toList.all isNameChar = true)
    ⟨fun h => ⟨h.1, h.2⟩, fun h => ⟨h.shows, h.chars⟩⟩

section Attributes

structure Completes (expressions : Bool) (m : Mode) (tag : StartTag) : Prop where
  close : step expressions m '>' = some (.text, [.opening tag])
  next : step expressions m ' ' = some (.attrName tag [], [])

def ReadsAttr (expressions : Bool) (cs : List Char) (a : String × Value) : Prop :=
  ∀ m tag, Completes expressions m tag →
    ∃ m', scan (step expressions) m cs = some (m', []) ∧ Completes expressions m' (tag.push a)

def ReadsInValue (expressions : Bool) (cs : List Char) (c : Char) : Prop :=
  ∀ tag name value, scan (step expressions) (.value tag name value) cs =
    some (.value tag name (value ++ [c]), [])

theorem completes_tagName (name : List Char) :
    Completes expressions (.tagName name) ⟨String.ofList name, []⟩ := ⟨rfl, rfl⟩

theorem completes_valueEnd (tag : StartTag) : Completes expressions (.valueEnd tag) tag :=
  ⟨rfl, rfl⟩

theorem completes_attrName (tag : StartTag) {name : List Char} (h : name ≠ []) :
    Completes expressions (.attrName tag name) (tag.add name .flag) := by
  constructor
  · rw [step, if_neg (by decide), if_neg h]
    rfl
  · rw [step, if_neg (by decide), if_neg h]
    rfl

theorem StartTag.add_toList (t : StartTag) (name : String) (value : Value) :
    t.add name.toList value = t.push (name, value) := by
  rw [add, String.ofList_toList]

section Parts

variable {name : String} (plain : PlainName name) {m : Mode} {tag : StartTag}
include plain

theorem scan_blank_name (h : Completes expressions m tag) :
    scan (step expressions) m (' ' :: name.toList) = some (.attrName tag name.toList, []) := by
  refine scan_led (Mode.attrName tag) (fun c gathered hc => ?_) h.next _ plain.chars
  rw [step, if_pos hc]

theorem readsAttr_flag : ReadsAttr expressions (' ' :: name.toList) (name, .flag) := by
  intro m tag h
  refine ⟨_, scan_blank_name plain h, ?_⟩
  rw [← StartTag.add_toList]
  exact completes_attrName tag plain.shows

theorem readsAttr_valued {cs : List Char} {value : Value}
    (h : ∀ tag name, scan (step expressions) (.valueStart tag name) cs =
      some (.valueEnd (tag.add name value), [])) :
    ReadsAttr expressions (' ' :: name.toList ++ '=' :: cs) (name, value) := by
  intro m tag completes
  have equals : step expressions (.attrName tag name.toList) '=' =
      some (.valueStart tag name.toList, []) := by
    rw [step, if_neg (by decide), if_neg plain.shows, if_pos rfl]
  refine ⟨.valueEnd (tag.push (name, value)), scan_append (scan_blank_name plain completes) ?_,
    completes_valueEnd _⟩
  rw [scan_quiet equals, h, StartTag.add_toList]

theorem readsAttr_quoted {f : Char → List Char} (h : ∀ c, ReadsInValue expressions (f c) c)
    (s : String) :
    ReadsAttr expressions (' ' :: name.toList ++ '=' :: '"' :: (s.toList.flatMap f ++ ['"']))
      (name, .text s) := by
  refine readsAttr_valued plain fun tag name => ?_
  have gathered := scan_gathered (Mode.value tag name) s.toList (fun c _ => h c tag name) []
  have quote : step expressions (.value tag name s.toList) '"' =
      some (.valueEnd (tag.add name (.text s)), []) := by
    rw [step, if_pos rfl, String.ofList_toList]
  rw [scan_quiet rfl]
  exact scan_append gathered (scan_cons quote rfl)

end Parts

theorem readsInValue_self {c : Char} (quote : c ≠ '"') (amp : c ≠ '&') :
    ReadsInValue expressions [c] c := by
  intro tag name value
  refine scan_quiet ?_ []
  rw [step, if_neg quote, if_neg amp]

theorem scan_run {m m' : Code.Mode} {cs : List Char} (h : Code.run m cs = some m')
    (tag : StartTag) (name : List Char) :
    scan (step expressions) (.expr tag name m) cs = some (.expr tag name m', []) := by
  induction cs generalizing m with
  | nil =>
    cases h
    rfl
  | cons c cs ih =>
    rw [Code.run, List.foldlM_cons] at h
    obtain ⟨m₁, hstep, hs⟩ := Option.bind_eq_some_iff.1 h
    have here : step expressions (.expr tag name m) c = some (.expr tag name m₁, []) := by
      simp only [step, stepExpr, hstep]
    rw [scan_quiet here]
    exact ih hs

theorem readsAttr_braced {name : String} (plain : PlainName name) {code : String}
    {tokens : List Code.Token} (h : Code.Reads code tokens) :
    ReadsAttr true (' ' :: name.toList ++ '=' :: '\x7b' :: (code.toList ++ ['\x7d']))
      (name, .expr tokens) := by
  refine readsAttr_valued plain fun tag name => ?_
  rw [scan_quiet rfl]
  -- Complete code does not go on with a brace, so this one ends the expression.
  exact scan_append (scan_run h.run_start tag name) rfl

theorem scan_attrs {parts : List (List Char)} {attrs : List (String × Value)}
    (h : List.Forall₂ (ReadsAttr expressions) parts attrs) {m : Mode} {tag : StartTag}
    (completes : Completes expressions m tag) :
    ∃ m', scan (step expressions) m parts.flatten = some (m', []) ∧
      Completes expressions m' { tag with attrs := tag.attrs ++ attrs } := by
  induction h generalizing m tag with
  | nil => exact ⟨m, rfl, by simpa using completes⟩
  | cons here _ ih =>
    obtain ⟨m₁, first, completes₁⟩ := here m tag completes
    obtain ⟨m₂, rest, completes₂⟩ := ih completes₁
    exact ⟨m₂, scan_append first rest, by simpa [StartTag.push] using completes₂⟩

end Attributes

section Tags

variable {name : String} (plain : PlainName name)
include plain

theorem scan_start {parts : List (List Char)} {attrs : List (String × Value)}
    (h : List.Forall₂ (ReadsAttr expressions) parts attrs) :
    ∃ m, scan (step expressions) .text ('<' :: (name.toList ++ parts.flatten)) = some (m, []) ∧
      Completes expressions m ⟨name, attrs⟩ := by
  have first (c : Char) (hc : isNameChar c = true) :
      step expressions .tagStart c = some (.tagName [c], []) := by
    rw [step, if_neg, if_pos hc]
    rintro rfl
    exact absurd hc (by decide)
  have read := scan_begun Mode.tagName (fun c gathered hc => by rw [step, if_pos hc]) first
    plain.shows plain.chars
  have completes : Completes expressions (.tagName name.toList) _ := completes_tagName name.toList
  rw [String.ofList_toList] at completes
  obtain ⟨m, rest, completes⟩ := scan_attrs h completes
  refine ⟨m, ?_, completes⟩
  rw [scan_quiet rfl]
  exact scan_append read rest

theorem takes_opening {parts : List (List Char)} {attrs : List (String × Value)}
    (h : List.Forall₂ (ReadsAttr expressions) parts attrs) :
    Takes expressions ('<' :: (name.toList ++ parts.flatten) ++ ['>'])
      [.opening ⟨name, attrs⟩] := by
  obtain ⟨m, read, completes⟩ := scan_start plain h
  exact scan_append read (scan_cons completes.close rfl)

theorem takes_selfClosing {parts : List (List Char)} {attrs : List (String × Value)}
    (h : List.Forall₂ (ReadsAttr true) parts attrs) :
    Takes true ('<' :: (name.toList ++ parts.flatten) ++ [' ', '/', '>'])
      [.selfClosing ⟨name, attrs⟩] := by
  obtain ⟨m, read, completes⟩ := scan_start plain h
  refine scan_append read ?_
  rw [scan_quiet completes.next]
  rfl

theorem takes_closing :
    Takes expressions ('<' :: '/' :: (name.toList ++ ['>'])) [.closing name] := by
  have read : scan (step expressions) .tagStart ('/' :: name.toList) =
      some (.closingName name.toList, []) :=
    scan_led Mode.closingName (fun c gathered hc => by rw [step, if_pos hc]) rfl _ plain.chars
  have last : step expressions (.closingName name.toList) '>' = some (.text, [.closing name]) := by
    rw [step, if_neg (by decide), if_pos rfl, String.ofList_toList]
  rw [Takes, scan_quiet rfl]
  exact scan_append read (scan_cons last rfl)

end Tags

section Texts

def lineBreak : StartTag := ⟨"br", []⟩

theorem takes_self {c : Char} (lt : c ≠ '<') (amp : c ≠ '&')
    (brace : expressions = true → ['>', '\x7b', '\x7d'].contains c = false) :
    Takes expressions [c] [.char c] := by
  have here : step expressions .text c = some (.text, [.char c]) := by
    rw [step, if_neg lt, if_neg amp, if_neg]
    rw [Bool.and_eq_true]
    rintro ⟨on, special⟩
    exact Bool.false_ne_true ((brace on).symm.trans special)
  exact scan_cons here rfl

def shown (br : Piece) (s : String) : List Piece :=
  (Text.joinBreaks s.toList).map fun c => if c = '\n' then br else .char c

theorem joinBreaks_append {as : List Char} (h : '\r' ∉ as) (bs : List Char) :
    Text.joinBreaks (as ++ bs) = as ++ Text.joinBreaks bs := by
  induction as with
  | nil => rfl
  | cons c as ih =>
    rw [List.mem_cons, not_or] at h
    rw [List.cons_append, Text.joinBreaks.eq_3 c _ fun _ same => absurd same.symm h.1, ih h.2,
      List.cons_append]

theorem joinBreaks_return {cs : List Char} (h : cs.head? ≠ some '\n') :
    Text.joinBreaks ('\r' :: cs) = '\r' :: Text.joinBreaks cs := by
  refine Text.joinBreaks.eq_3 _ _ fun ds _ same => h ?_
  rw [same]
  rfl

structure KeepsBreaks (f : Char → List Char) : Prop where
  newline : f '\n' = ['\n']
  carriageReturn : f '\r' = ['\r']
  other : ∀ c, c ≠ '\n' → c ≠ '\r' → f c ≠ [] ∧ '\n' ∉ f c ∧ '\r' ∉ f c

section Markup

theorem keepsBreaks_markupChar : KeepsBreaks Escape.markupChar where
  newline := rfl
  carriageReturn := rfl
  other c newline carriageReturn := by
    unfold Escape.markupChar
    split
    iterate 5 decide
    simp [newline, carriageReturn, Ne.symm]

theorem takes_markupChar {c : Char} (plain : expressions = true → c ≠ '\x7b' ∧ c ≠ '\x7d') :
    Takes expressions (Escape.markupChar c) [.char c] := by
  unfold Escape.markupChar
  split
  iterate 5 rfl
  · next amp lt gt _ _ =>
    refine takes_self lt amp fun on => ?_
    simpa using ⟨gt, plain on⟩

theorem readsInValue_markupChar (c : Char) :
    ReadsInValue expressions (Escape.markupChar c) c := by
  unfold Escape.markupChar
  split
  iterate 5 exact fun _ _ _ => rfl
  · next amp _ _ quot _ => exact readsInValue_self quot amp

end Markup

section Escaped

variable {f : Char → List Char} (keeps : KeepsBreaks f)
include keeps

theorem KeepsBreaks.head?_flatMap {cs : List Char} (h : cs.head? ≠ some '\n') :
    (cs.flatMap f).head? ≠ some '\n' := by
  cases cs with
  | nil => exact h
  | cons c cs =>
    have newline : c ≠ '\n' := fun same => h (congrArg some same)
    rw [List.flatMap_cons]
    by_cases carriageReturn : c = '\r'
    · rw [carriageReturn, keeps.carriageReturn, List.singleton_append, List.head?_cons]
      decide
    · obtain ⟨shows, unbroken, -⟩ := keeps.other c newline carriageReturn
      obtain ⟨d, ds, written⟩ := List.exists_cons_of_ne_nil shows
      rw [written, List.cons_append, List.head?_cons]
      rintro ⟨rfl⟩
      exact unbroken (written ▸ List.mem_cons_self)

theorem KeepsBreaks.joinBreaks_flatMap (cs : List Char) :
    Text.joinBreaks (cs.flatMap f) = (Text.joinBreaks cs).flatMap f := by
  induction cs using Text.joinBreaks.induct with
  | case1 => rfl
  | case2 cs ih =>
    rw [List.flatMap_cons, List.flatMap_cons, keeps.carriageReturn, keeps.newline]
    simp only [List.cons_append, List.nil_append, Text.joinBreaks, List.flatMap_cons, keeps.newline,
      ih]
  | case3 c cs alone ih =>
    rw [Text.joinBreaks.eq_3 c cs alone, List.flatMap_cons, List.flatMap_cons, ← ih]
    by_cases carriageReturn : c = '\r'
    · -- What the next character is written as does not make the carriage return a line break.
      have behind : cs.head? ≠ some '\n' := by
        intro next
        obtain ⟨ds, rfl⟩ := List.head?_eq_some_iff.1 next
        exact alone ds carriageReturn rfl
      rw [carriageReturn, keeps.carriageReturn, List.singleton_append,
        joinBreaks_return (keeps.head?_flatMap behind), List.singleton_append]
    · refine joinBreaks_append ?_ _
      by_cases newline : c = '\n'
      · rw [newline, keeps.newline]
        decide
      · exact (keeps.other c newline carriageReturn).2.2

theorem KeepsBreaks.return_notMem {cs : List Char} (h : '\r' ∉ cs) : '\r' ∉ cs.flatMap f := by
  rw [List.mem_flatMap]
  rintro ⟨c, hc, hm⟩
  by_cases newline : c = '\n'
  · rw [newline, keeps.newline] at hm
    exact absurd hm (by decide)
  · exact (keeps.other c newline (ne_of_mem_of_not_mem hc h)).2.2 hm

theorem KeepsBreaks.takes_shown {br : List Char} {piece : Piece}
    (chars : ∀ c, c ≠ '\n' → Takes expressions (f c) [.char c])
    (breaks : Takes expressions br [piece]) (s : String) :
    Takes expressions
      ((Text.joinBreaks (s.toList.flatMap f)).flatMap (Escape.showBreak br)) (shown piece s) := by
  have unbroken (c : Char) (newline : c ≠ '\n') : '\n' ∉ f c := by
    by_cases carriageReturn : c = '\r'
    · rw [carriageReturn, keeps.carriageReturn]
      decide
    · exact (keeps.other c newline carriageReturn).2.1
  have each (c : Char) : Takes expressions ((f c).flatMap (Escape.showBreak br))
      [if c = '\n' then piece else .char c] := by
    by_cases newline : c = '\n'
    · subst newline
      rw [keeps.newline, List.flatMap_singleton, if_pos rfl, Escape.showBreak, if_pos rfl]
      exact breaks
    · have same : (f c).flatMap (Escape.showBreak br) = f c := by
        refine (List.flatMap_congr fun d hd => ?_).trans (List.flatMap_singleton' _)
        rw [Escape.showBreak, if_neg]
        rintro rfl
        exact unbroken c newline hd
      rw [same, if_neg newline]
      exact chars c newline
  rw [keeps.joinBreaks_flatMap, List.flatMap_assoc, shown, List.map_eq_flatMap]
  exact takes_flatMap fun c _ => each c

end Escaped

end Texts

end MiniApp.Parse

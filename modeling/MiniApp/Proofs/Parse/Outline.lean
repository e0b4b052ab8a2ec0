import MiniApp.Proofs.Parse.Pieces

/-!
The pieces of a text put together. An element holds a text, whose line breaks may be shown by
elements, or elements with nothing but blanks between them. Which elements have no end tag is not
told by their start tags: one reader goes by names, another one by how the lines are laid out.
-/

set_option autoImplicit false

namespace MiniApp

/-- What a text tells of the tree that it was rendered from; `ρ` is what a start tag tells. -/
inductive Outline (ρ : Type) where
  | text (value : String)
  | element (start : ρ) (children : List (Outline ρ))

namespace Parse

variable {ρ : Type}

inductive Item (ρ : Type) where
  | char (c : Char)
  | lineBreak
  | element (outline : Outline ρ)

namespace Item

def element? : Item ρ → Option (Outline ρ)
  | .element outline => some outline
  | _ => none

def char? : Item ρ → Option Char
  | .char c => some c
  | .lineBreak => some '\n'
  | .element _ => none

def isApart : Item ρ → Bool
  | .char c => Text.isBlank c
  | .lineBreak => false
  | .element _ => true

end Item

def textOf (cs : List Char) : List (Outline ρ) := if cs = [] then [] else [.text (String.ofList cs)]

def contents? (items : List (Item ρ)) : Option (List (Outline ρ)) :=
  match items.filterMap Item.element? with
  | [] => some (textOf (items.filterMap Item.char?))
  | elements => if items.all Item.isApart then some elements else none

structure Frame (ρ : Type) where
  name : String
  start : ρ
  before : List (Item ρ)

/-- The open elements, the innermost first, and what has been read of it. -/
structure State (ρ : Type) where
  outer : List (Frame ρ)
  items : List (Item ρ)

def State.put (s : State ρ) (item : Item ρ) : State ρ := { s with items := s.items ++ [item] }

/-- One piece. An end tag closes the innermost element alone. -/
def turn (interpret : StartTag → Option ρ) (s : State ρ) : Piece → Option (State ρ)
  | .char c => some (s.put (.char c))
  | .opening tag => (interpret tag).map fun start => ⟨⟨tag.name, start, s.items⟩ :: s.outer, []⟩
  | .selfClosing tag =>
    if tag = lineBreak then some (s.put .lineBreak)
    else (interpret tag).map fun start => s.put (.element (.element start []))
  | .closing name =>
    match s.outer with
    | [] => none
    | frame :: outer =>
      if frame.name = name then
        (contents? s.items).map fun children =>
          State.put ⟨outer, frame.before⟩ (.element (.element frame.start children))
      else none

def build (interpret : StartTag → Option ρ) (s : State ρ) (pieces : List Piece) :
    Option (State ρ) :=
  pieces.foldlM (turn interpret) s

def outline? (interpret : StartTag → Option ρ) (pieces : List Piece) :
    Option (List (Outline ρ)) :=
  match build interpret ⟨[], []⟩ pieces with
  | some ⟨[], items⟩ => contents? items
  | _ => none

section Marking

def markNamed (names : List String) : Piece → Piece
  | .opening tag => if tag.name ∈ names then .selfClosing tag else .opening tag
  | piece => piece

def margin (pieces : List Piece) : Nat := (pieces.takeWhile (· = .char ' ')).length

def endsLevel (column : Nat) : List Piece → Bool
  | .char c :: pieces => c == '\n' && margin pieces ≤ column
  | _ => false

/-- An element has no end tag if its start tag ends a line and the next line is not deeper, or if it
shows a line break. The column counts characters since the last line break. -/
def markLaid (column : Nat) : List Piece → List Piece
  | [] => []
  | .char c :: pieces => .char c :: markLaid (if c = '\n' then 0 else column + 1) pieces
  | .opening tag :: pieces =>
    (if tag = lineBreak ∨ endsLevel column pieces = true then .selfClosing tag else .opening tag) ::
      markLaid column pieces
  | piece :: pieces => piece :: markLaid column pieces

end Marking

section Readers

def readNamed? (interpret : StartTag → Option ρ) (names : List String) (s : String) :
    Option (List (Outline ρ)) :=
  (pieces? false s).bind fun pieces => outline? interpret (pieces.map (markNamed names))

def readLaid? (interpret : StartTag → Option ρ) (s : String) : Option (List (Outline ρ)) :=
  (pieces? false s).bind fun pieces => outline? interpret (markLaid 0 pieces)

/-- A tag that has no end tag closes itself. -/
def readClosed? (interpret : StartTag → Option ρ) (s : String) : Option (List (Outline ρ)) :=
  (pieces? true s).bind fun pieces => outline? interpret pieces

end Readers

section Starts

/-- What a start tag tells: the words of its class, its other attributes in order, and its
styles. -/
structure Start (σ : Type) where
  name : String
  classes : Option String
  attrs : List (String × Option String)
  styles : σ

def Value.string? : Value → Option (Option String)
  | .text s => some (some s)
  | .flag => some none
  | .expr [.literal s] => some (some s)
  | .expr _ => none

def classWords? (classes : List String) : Option String :=
  if classes.isEmpty then none else some (" ".intercalate classes)

variable {σ : Type}

def startOf? (classKey : String) (styles? : Option Value → Option σ) (tag : StartTag) :
    Option (Start σ) := do
  let classes ← match tag.attrs.lookup classKey with
    | none => some none
    | some value => value.string?
  let attrs ← (tag.attrs.filter fun a => a.1 ≠ classKey ∧ a.1 ≠ "style").mapM fun a =>
    a.2.string?.map fun s => (a.1, s)
  let styles ← styles? (tag.attrs.lookup "style")
  return ⟨tag.name, classes, attrs, styles⟩

/-- The attributes of a start tag: first the class, last the styles. -/
def attrsOf (classKey : String) (classes : Option String) (attrs : List (String × Value))
    (styles : Option Value) : List (String × Value) :=
  (classes.map fun words => (classKey, .text words)).toList ++ attrs ++
    (styles.map fun value => ("style", value)).toList

theorem lookup_of_forall_ne {attrs : List (String × Value)} {key : String}
    (other : ∀ a ∈ attrs, a.1 ≠ key) (more : List (String × Value)) :
    (attrs ++ more).lookup key = more.lookup key := by
  induction attrs with
  | nil => rfl
  | cons a attrs ih =>
    rw [List.forall_mem_cons] at other
    rw [List.cons_append, List.lookup_cons, beq_false_of_ne other.1.symm]
    exact ih other.2

theorem strings_of {β : Type} {parsed : β → Value} {string : β → Option String}
    {attrs : List (String × β)} (h : ∀ a ∈ attrs, (parsed a.2).string? = some (string a.2)) :
    (attrs.map fun a => (a.1, parsed a.2)).mapM (fun a => a.2.string?.map fun s => (a.1, s)) =
      some (attrs.map fun a => (a.1, string a.2)) := by
  induction attrs with
  | nil => rfl
  | cons a attrs ih =>
    rw [List.forall_mem_cons] at h
    rw [List.map_cons, List.mapM_cons, h.1, ih h.2]
    rfl

theorem startOf?_attrsOf {classKey : String} (apart : classKey ≠ "style") (name : String)
    (classes : Option String) {attrs : List (String × Value)}
    (own : ∀ a ∈ attrs, a.1 ≠ classKey ∧ a.1 ≠ "style") {strings : List (String × Option String)}
    (values : attrs.mapM (fun a => a.2.string?.map fun s => (a.1, s)) = some strings)
    {styles? : Option Value → Option σ} {value : Option Value} {styles : σ}
    (styled : styles? value = some styles) :
    startOf? classKey styles? ⟨name, attrsOf classKey classes attrs value⟩ =
      some ⟨name, classes, strings, styles⟩ := by
  have classed : (attrsOf classKey classes attrs value).lookup classKey = classes.map .text := by
    rw [attrsOf, List.append_assoc]
    cases classes with
    | some words => exact List.lookup_cons_self
    | none =>
      rw [Option.map_none, Option.toList_none, List.nil_append,
        lookup_of_forall_ne fun a ha => (own a ha).1]
      cases value with
      | none => rfl
      | some v =>
        rw [Option.map_some, Option.toList_some, List.lookup_cons, beq_false_of_ne apart]
        rfl
  have first : ∀ a ∈ (classes.map fun words => (classKey, Value.text words)).toList ++ attrs,
      a.1 ≠ "style" := by
    rw [List.forall_mem_append]
    refine ⟨fun a ha => ?_, fun a ha => (own a ha).2⟩
    obtain ⟨words, -, rfl⟩ := Option.map_eq_some_iff.1 (Option.mem_toList.1 ha)
    exact apart
  have last : (attrsOf classKey classes attrs value).lookup "style" = value := by
    rw [attrsOf, lookup_of_forall_ne first]
    cases value with
    | none => rfl
    | some v => exact List.lookup_cons_self
  have others : (attrsOf classKey classes attrs value).filter
      (fun a => a.1 ≠ classKey ∧ a.1 ≠ "style") = attrs := by
    have kept : attrs.filter (fun a => a.1 ≠ classKey ∧ a.1 ≠ "style") = attrs :=
      List.filter_eq_self.2 fun a ha => decide_eq_true (own a ha)
    rw [attrsOf, List.filter_append, List.filter_append, kept]
    cases classes <;> cases value <;> simp
  rw [startOf?, classed, others, last, values, styled]
  cases classes <;> rfl

end Starts

section Build

variable {interpret : StartTag → Option ρ} {s s' : State ρ}

theorem build_cons {piece : Piece} (h : turn interpret s piece = some s') (pieces : List Piece) :
    build interpret s (piece :: pieces) = build interpret s' pieces := by
  rw [build, List.foldlM_cons, h]
  rfl

theorem build_append {pieces : List Piece} (h : build interpret s pieces = some s')
    (more : List Piece) :
    build interpret s (pieces ++ more) = build interpret s' more := by
  rw [build, List.foldlM_append, ← build, h]
  rfl

/-- Pieces that are put down one after the other, wherever one is. -/
theorem build_flatMap {β : Type} {xs : List β} {pieces : β → List Piece} {items : β → List (Item ρ)}
    (h : ∀ x ∈ xs, ∀ outer before,
      build interpret ⟨outer, before⟩ (pieces x) = some ⟨outer, before ++ items x⟩)
    (outer : List (Frame ρ)) (before : List (Item ρ)) :
    build interpret ⟨outer, before⟩ (xs.flatMap pieces) =
      some ⟨outer, before ++ xs.flatMap items⟩ := by
  induction xs generalizing before with
  | nil => simp [build]
  | cons x xs ih =>
    rw [List.forall_mem_cons] at h
    rw [List.flatMap_cons, build_append (h.1 ..), ih h.2, List.append_assoc, List.flatMap_cons]

theorem build_chars (cs : List Char) (outer : List (Frame ρ)) (items : List (Item ρ)) :
    build interpret ⟨outer, items⟩ (cs.map .char) = some ⟨outer, items ++ cs.map .char⟩ := by
  rw [List.map_eq_flatMap, List.map_eq_flatMap]
  exact build_flatMap (fun _ _ _ _ => rfl) outer items

def shownItems (s : String) : List (Item ρ) :=
  (Text.joinBreaks s.toList).map fun c => if c = '\n' then .lineBreak else .char c

theorem build_shown (s : String) (outer : List (Frame ρ)) (items : List (Item ρ)) :
    build interpret ⟨outer, items⟩ (shown (.selfClosing lineBreak) s) =
      some ⟨outer, items ++ shownItems s⟩ := by
  rw [shown, shownItems, List.map_eq_flatMap, List.map_eq_flatMap]
  refine build_flatMap (fun c _ outer before => build_cons ?_ []) outer items
  split
  · rw [turn, if_pos rfl]
    rfl
  · rfl

theorem contents?_shownItems (s : String) :
    contents? (shownItems s : List (Item ρ)) = some (textOf (Text.joinBreaks s.toList)) := by
  have elements (cs : List Char) : (cs.map fun c => if c = '\n' then .lineBreak else .char c :
      List (Item ρ)).filterMap Item.element? = [] := by
    induction cs with
    | nil => rfl
    | cons c cs ih =>
      rw [List.map_cons, List.filterMap_cons_none (by split <;> rfl), ih]
  have chars (cs : List Char) : (cs.map fun c => if c = '\n' then .lineBreak else .char c :
      List (Item ρ)).filterMap Item.char? = cs := by
    induction cs with
    | nil => rfl
    | cons c cs ih =>
      rw [List.map_cons, List.filterMap_cons_some (b := c) (by split <;> simp_all [Item.char?]), ih]
  rw [contents?, shownItems, elements, chars]

theorem contents?_apart {items : List (Item ρ)} {elements : List (Outline ρ)}
    (found : items.filterMap Item.element? = elements) (shows : elements ≠ [])
    (apart : ∀ item ∈ items, item.isApart = true) : contents? items = some elements := by
  rw [contents?, found]
  split
  · exact absurd rfl shows
  · rw [if_pos (List.all_eq_true.2 apart)]

end Build

end Parse

end MiniApp

import MiniApp.Proofs.Parse.Outline
import MiniApp.Proofs.Source.Layout

set_option autoImplicit false

namespace MiniApp

open Scanner (lineChars lineChars_cons)
open Parse

variable {α σ ρ : Type}

namespace Tree

/-- No fragments, each text the one child of an element, and nothing in void elements. -/
inductive Plain (head : Head α σ → Prop) : Tree α σ → Prop
  | leaf {h : Head α σ} (heads : head h) : Plain head (.element h [])
  | words {h : Head α σ} (heads : head h) (filled : h.isVoid = false) (s : String) :
      Plain head (.element h [.text s])
  | block {h : Head α σ} {children : List (Tree α σ)} (heads : head h) (filled : h.isVoid = false)
      (shows : children ≠ []) (below : ∀ t ∈ children, Plain head t) :
      Plain head (.element h children)

theorem Plain.and {head head' : Head α σ → Prop} {t : Tree α σ} (plain : t.Plain head)
    (plain' : t.Plain head') : t.Plain fun h => head h ∧ head' h := by
  induction plain with
  | leaf heads =>
    cases plain' with
    | leaf heads' => exact .leaf ⟨heads, heads'⟩
    | block _ _ shows => exact absurd rfl shows
  | words heads filled s =>
    cases plain' with
    | words heads' => exact .words ⟨heads, heads'⟩ filled s
    | block _ _ _ below => exact nomatch below _ List.mem_cons_self
  | block heads filled shows below ih =>
    cases plain' with
    | leaf => exact absurd rfl shows
    | words => exact nomatch below _ List.mem_cons_self
    | block heads' _ _ below' =>
      exact .block ⟨heads, heads'⟩ filled shows fun t ht => ih t ht (below' t ht)

theorem ne_text_of_plain {head : Head α σ → Prop} {ts : List (Tree α σ)}
    (h : ∀ t ∈ ts, Plain head t) (s : String) : ts ≠ [.text s] := by
  rintro rfl
  exact nomatch h _ List.mem_cons_self

mutual

/-- What can be told of a tree from what it is rendered to. -/
def outline (start : Head α σ → ρ) : Tree α σ → List (Outline ρ)
  | .text s => textOf (Text.joinBreaks s.toList)
  | .raw _ => []
  | .element head children => [.element (start head) (outlines start children)]

def outlines (start : Head α σ → ρ) : List (Tree α σ) → List (Outline ρ)
  | [] => []
  | t :: ts => outline start t ++ outlines start ts

end

end Tree

namespace Parse

/-- A language that trees are rendered to: its dialect, and what its start tags are read as and tell
of an element. -/
structure Language (α σ ρ : Type) where
  dialect : Dialect α σ
  expressions : Bool
  tag : Head α σ → StartTag
  start : Head α σ → ρ
  interpret : StartTag → Option ρ

def plainly (expressions : Bool) : Piece → Piece
  | .selfClosing tag => if expressions then .selfClosing tag else .opening tag
  | piece => piece

section Plainly

variable (expressions : Bool)

@[simp] theorem plainly_char (c : Char) : plainly expressions (.char c) = .char c := rfl

@[simp] theorem plainly_opening (tag : StartTag) :
    plainly expressions (.opening tag) = .opening tag := rfl

@[simp] theorem plainly_closing (name : String) :
    plainly expressions (.closing name) = .closing name := rfl

theorem plainly_selfClosing (tag : StartTag) :
    plainly false (.selfClosing tag) = .opening tag := rfl

theorem map_shown (s : String) :
    (shown (.selfClosing lineBreak) s).map (plainly expressions) =
      shown (plainly expressions (.selfClosing lineBreak)) s := by
  rw [shown, shown, List.map_map]
  refine List.map_congr_left fun c _ => ?_
  rw [Function.comp_apply]
  split <;> rfl

end Plainly

namespace Language

variable (l : Language α σ ρ)

def leaf (h : Head α σ) : List Piece :=
  if l.expressions || h.isVoid then [.selfClosing (l.tag h)]
  else [.opening (l.tag h), .closing h.name]

def newline : Piece := .char '\n'

def indent (level : Nat) : List Piece := List.replicate (2 * level) (.char ' ')

mutual

/-- The pieces of a tree, with the elements told apart that have no end tag. -/
def transcript (level : Nat) : Tree α σ → List Piece
  | .text s => indent level ++ (shown (.selfClosing lineBreak) s ++ [newline])
  | .raw _ => []
  | .element h [] => indent level ++ (l.leaf h ++ [newline])
  | .element h [.text s] =>
    indent level ++
      .opening (l.tag h) :: (shown (.selfClosing lineBreak) s ++ [.closing h.name, newline])
  | .element h children =>
    indent level ++ .opening (l.tag h) :: newline ::
      (transcripts (level + 1) children ++ (indent level ++ [.closing h.name, newline]))

def transcripts (level : Nat) : List (Tree α σ) → List Piece
  | [] => []
  | t :: ts => transcript level t ++ transcripts level ts

end

/-- The parts of elements with heads of one kind are taken for what they are meant to be. -/
structure Lawful (head : Head α σ → Prop) : Prop where
  name : ∀ {h}, head h → PlainName h.name
  other : ∀ {h}, head h → h.name ≠ "br"
  tag : ∀ h, (l.tag h).name = h.name
  opened : ∀ {h}, head h →
    Takes l.expressions (l.dialect.opening h ++ ">").toList [.opening (l.tag h)]
  childless : ∀ {h}, head h →
    Takes l.expressions (l.dialect.childless h).toList ((l.leaf h).map (plainly l.expressions))
  ends : ∀ {h}, head h → ∃ line, l.dialect.childless h = line ++ ">"
  words : ∀ s, Takes l.expressions (l.dialect.text s).toList
    ((shown (.selfClosing lineBreak) s).map (plainly l.expressions))
  interpret : ∀ {h}, head h → l.interpret (l.tag h) = some (l.start h)

section Transcript

variable (level : Nat) {h : Head α σ}

theorem transcripts_eq_flatMap (ts : List (Tree α σ)) :
    l.transcripts level ts = ts.flatMap (l.transcript level) := by
  induction ts with
  | nil => rfl
  | cons t ts ih => rw [transcripts, ih, List.flatMap_cons]

theorem transcript_nil :
    l.transcript level (.element h []) = indent level ++ (l.leaf h ++ [newline]) := by
  simp [transcript]

theorem transcript_text (s : String) :
    l.transcript level (.element h [.text s]) =
      indent level ++
        .opening (l.tag h) :: (shown (.selfClosing lineBreak) s ++ [.closing h.name, newline]) := by
  simp [transcript]

theorem transcript_block {children : List (Tree α σ)} (hc : children ≠ [])
    (ht : ∀ s, children ≠ [.text s]) :
    l.transcript level (.element h children) =
      indent level ++ .opening (l.tag h) :: newline ::
        (l.transcripts (level + 1) children ++ (indent level ++ [.closing h.name, newline])) := by
  rcases children with - | ⟨s | f | ⟨h', cs⟩, - | ⟨u, ts⟩⟩
  · exact absurd rfl hc
  · exact absurd rfl (ht s)
  all_goals simp [transcript]

end Transcript

variable {l} {head : Head α σ → Prop}

section Scan

theorem map_indent (expressions : Bool) (level : Nat) :
    (indent level).map (plainly expressions) = indent level := by
  rw [indent, List.map_replicate]
  rfl

theorem takes_spaces (expressions : Bool) (n : Nat) :
    Takes expressions (List.replicate n ' ') (List.replicate n (.char ' ')) := by
  induction n with
  | zero => exact takes_nil
  | succ n ih =>
    have blank : Takes expressions [' '] [.char ' '] := by cases expressions <;> rfl
    rw [List.replicate_succ, List.replicate_succ]
    exact blank.append ih

theorem takes_line {expressions : Bool} {line : String} {pieces : List Piece}
    (h : Takes expressions line.toList pieces) (shows : line ≠ "") (level : Nat) :
    Takes expressions (lineChars [indented level line])
      (indent level ++ (pieces ++ [newline])) := by
  have ended : Takes expressions ['\n'] [newline] := by cases expressions <;> rfl
  have written : lineChars [indented level line] =
      List.replicate (2 * level) ' ' ++ (line.toList ++ ['\n']) := by
    simp [lineChars, indented, if_neg shows, spaces]
  rw [written]
  exact (takes_spaces expressions _).append (h.append ended)

theorem lineChars_append (ls ls' : List String) :
    lineChars (ls ++ ls') = lineChars ls ++ lineChars ls' := List.flatMap_append

theorem Lawful.takes_lines (lawful : l.Lawful head) {t : Tree α σ} (plain : t.Plain head)
    (level : Nat) :
    Takes l.expressions (lineChars (t.lines l.dialect level))
      ((l.transcript level t).map (plainly l.expressions)) := by
  have closes {h : Head α σ} (heads : head h) :
      Takes l.expressions (Tree.closing h).toList [.closing h.name] := by
    simpa [Tree.closing] using takes_closing (lawful.name heads)
  induction plain generalizing level with
  | leaf heads =>
    rw [Tree.lines_nil, transcript_nil, List.map_append, List.map_append, map_indent]
    obtain ⟨line, written⟩ := lawful.ends heads
    refine takes_line (lawful.childless heads) ?_ level
    rw [written]
    exact fun empty => absurd (String.append_eq_empty_iff.1 empty).2 (by decide)
  | @words h heads filled s =>
    have line := ((lawful.opened heads).append (lawful.words s)).append (closes heads)
    rw [Tree.lines_text _ level filled, transcript_text, List.map_append, map_indent]
    rw [← String.toList_append, ← String.toList_append] at line
    have shows : l.dialect.opening h ++ ">" ++ l.dialect.text s ++ Tree.closing h ≠ "" :=
      fun empty => by simp [Tree.closing] at empty
    simpa [newline] using takes_line line shows level
  | @block h children heads filled shows below ih =>
    have opened : l.dialect.opening h ++ ">" ≠ "" :=
      fun empty => absurd (String.append_eq_empty_iff.1 empty).2 (by decide)
    have closed : Tree.closing h ≠ "" := fun empty => by simp [Tree.closing] at empty
    have inner : Takes l.expressions (lineChars (Tree.linesOfAll l.dialect (level + 1) children))
        ((l.transcripts (level + 1) children).map (plainly l.expressions)) := by
      rw [Tree.linesOfAll_eq_flatMap, transcripts_eq_flatMap, lineChars, List.flatMap_assoc,
        List.map_flatMap]
      exact takes_flatMap fun t ht => ih t ht (level + 1)
    have ne := Tree.ne_text_of_plain below
    rw [Tree.lines_block _ level filled shows ne, transcript_block _ _ shows ne,
      ← List.singleton_append, lineChars_append, lineChars_append]
    have all := (takes_line (lawful.opened heads) opened level).append
      (inner.append (takes_line (closes heads) closed level))
    simpa [map_indent, newline] using all

theorem toList_finishLines_bracket (ls : List String) (line : String) :
    (finishLines (ls ++ [line ++ ">"])).toList ++ ['\n'] = lineChars (ls ++ [line ++ ">"]) := by
  have written : (String.join ((ls ++ [line ++ ">"]).map (· ++ "\n"))).toList =
      lineChars ls ++ line.toList ++ ['>'] ++ ['\n'] := by
    simp [lineChars, List.flatMap_map]
  rw [finishLines, written, String.toList_ofList, List.reverse_append, List.reverse_singleton,
    List.singleton_append, List.dropWhile_cons_of_pos rfl, List.reverse_append,
    List.reverse_singleton, List.singleton_append, List.dropWhile_cons_of_neg (by decide)]
  simp [lineChars]

theorem Lawful.lines_eq (lawful : l.Lawful head) {t : Tree α σ} (plain : t.Plain head)
    (level : Nat) : ∃ ls line, t.lines l.dialect level = ls ++ [line ++ ">"] := by
  have ends (line : String) : ∃ more, indented level (line ++ ">") = more ++ ">" := by
    refine ⟨spaces (2 * level) ++ line, ?_⟩
    rw [indented, if_neg, String.append_assoc]
    exact fun empty => absurd (String.append_eq_empty_iff.1 empty).2 (by decide)
  have closing (h : Head α σ) : Tree.closing h = "</" ++ h.name ++ ">" := rfl
  cases plain with
  | leaf heads =>
    obtain ⟨line, written⟩ := lawful.ends heads
    obtain ⟨more, last⟩ := ends line
    exact ⟨[], more, by rw [Tree.lines_nil, written, last, List.nil_append]⟩
  | @words h heads filled s =>
    obtain ⟨more, last⟩ :=
      ends (l.dialect.opening h ++ ">" ++ l.dialect.text s ++ ("</" ++ h.name))
    refine ⟨[], more, ?_⟩
    rw [Tree.lines_text _ level filled, closing, ← String.append_assoc, last, List.nil_append]
  | @block h children heads filled shows below =>
    obtain ⟨more, last⟩ := ends ("</" ++ h.name)
    refine ⟨indented level (l.dialect.opening h ++ ">") ::
      Tree.linesOfAll l.dialect (level + 1) children, more, ?_⟩
    rw [Tree.lines_block _ level filled shows (Tree.ne_text_of_plain below), closing, last,
      List.cons_append]

theorem Lawful.pieces?_render (lawful : l.Lawful head) {t : Tree α σ} (plain : t.Plain head) :
    pieces? l.expressions (t.render l.dialect) =
      some ((l.transcript 0 t).map (plainly l.expressions)) := by
  refine Takes.pieces?_eq ?_
  obtain ⟨ls, line, written⟩ := lawful.lines_eq plain 0
  rw [Tree.render, written, toList_finishLines_bracket, ← written]
  exact lawful.takes_lines plain 0

end Scan

section Build

def laid (level : Nat) (outlines : List (Outline ρ)) : List (Item ρ) :=
  List.replicate (2 * level) (.char ' ') ++ (outlines.map .element ++ [.char '\n'])

theorem filterMap_blanks (n : Nat) :
    (List.replicate n (.char ' ' : Item ρ)).filterMap Item.element? = [] :=
  List.filterMap_eq_nil_iff.2 fun item h => by rw [List.eq_of_mem_replicate h]; rfl

theorem filterMap_laid (level : Nat) (outlines : List (Outline ρ)) :
    (laid level outlines).filterMap Item.element? = outlines := by
  have elements : (outlines.map Item.element).filterMap Item.element? = outlines := by
    rw [List.filterMap_map]
    exact List.filterMap_some
  rw [laid, List.filterMap_append, List.filterMap_append, filterMap_blanks, elements]
  simp [Item.element?]

theorem isApart_of_mem_laid {level : Nat} {outlines : List (Outline ρ)} :
    ∀ item ∈ laid level outlines, item.isApart = true := by
  rw [laid, List.forall_mem_append, List.forall_mem_append, List.forall_mem_map,
    List.forall_mem_singleton]
  exact ⟨fun item h => by rw [List.eq_of_mem_replicate h]; rfl, fun _ _ => rfl, rfl⟩

theorem build_indent {interpret : StartTag → Option ρ} (level : Nat) (outer : List (Frame ρ))
    (items : List (Item ρ)) :
    build interpret ⟨outer, items⟩ (indent level) =
      some ⟨outer, items ++ List.replicate (2 * level) (Item.char ' ')⟩ := by
  have all : build interpret ⟨outer, items⟩ ((List.replicate (2 * level) ' ').map .char) = _ :=
    build_chars _ outer items
  rwa [List.map_replicate, List.map_replicate] at all

theorem turn_newline {interpret : StartTag → Option ρ} (outer : List (Frame ρ))
    (items : List (Item ρ)) :
    turn interpret ⟨outer, items⟩ newline = some ⟨outer, items ++ [Item.char '\n']⟩ := rfl

section Elements

variable (lawful : l.Lawful head) {h : Head α σ} (heads : head h)
include lawful heads

theorem Lawful.ne_lineBreak : l.tag h ≠ lineBreak := fun same =>
  lawful.other heads (by rw [← lawful.tag, same]; rfl)

theorem Lawful.turn_opening (outer : List (Frame ρ)) (items : List (Item ρ)) :
    turn l.interpret ⟨outer, items⟩ (.opening (l.tag h)) =
      some ⟨⟨h.name, l.start h, items⟩ :: outer, []⟩ := by
  rw [turn, lawful.interpret heads, lawful.tag, Option.map_some]

omit lawful heads in
theorem turn_closing {interpret : StartTag → Option ρ} {inner : List (Item ρ)}
    {children : List (Outline ρ)} (contents : contents? inner = some children) (name : String)
    (start : ρ) (outer : List (Frame ρ)) (items : List (Item ρ)) :
    turn interpret ⟨⟨name, start, items⟩ :: outer, inner⟩ (.closing name) =
      some ⟨outer, items ++ [Item.element (.element start children)]⟩ := by
  simp [turn, contents, State.put]

theorem Lawful.build_leaf (outer : List (Frame ρ)) (items : List (Item ρ)) :
    build l.interpret ⟨outer, items⟩ (l.leaf h) =
      some ⟨outer, items ++ [.element (.element (l.start h) [])]⟩ := by
  rw [leaf]
  split
  · have other := lawful.ne_lineBreak heads
    refine build_cons ?_ []
    rw [turn, if_neg other, lawful.interpret heads]
    rfl
  · rw [build_cons (lawful.turn_opening heads outer items)]
    exact build_cons (turn_closing rfl ..) []

end Elements

theorem outlines_eq_flatMap (start : Head α σ → ρ) (ts : List (Tree α σ)) :
    Tree.outlines start ts = ts.flatMap (Tree.outline start) := by
  induction ts with
  | nil => rfl
  | cons t ts ih => rw [Tree.outlines, ih, List.flatMap_cons]

theorem outline_ne_nil {t : Tree α σ} (plain : t.Plain head) (start : Head α σ → ρ) :
    t.outline start ≠ [] := by
  cases plain <;> exact List.cons_ne_nil _ _

theorem contents?_block {children : List (Tree α σ)} (shows : children ≠ [])
    (below : ∀ t ∈ children, t.Plain head) (start : Head α σ → ρ) (level : Nat) :
    contents? (.char '\n' :: (children.flatMap (fun t => laid (level + 1) (t.outline start)) ++
      List.replicate (2 * level) (Item.char ' '))) = some (Tree.outlines start children) := by
  refine contents?_apart ?_ ?_ ?_
  · rw [List.filterMap_cons_none rfl, List.filterMap_append, filterMap_blanks, List.append_nil,
      List.filterMap_flatMap, outlines_eq_flatMap]
    exact List.flatMap_congr fun t _ => filterMap_laid _ _
  · obtain ⟨t, ts, rfl⟩ := List.exists_cons_of_ne_nil shows
    rw [Tree.outlines]
    exact List.append_ne_nil_of_left_ne_nil (outline_ne_nil (below t List.mem_cons_self) start) _
  · rw [List.forall_mem_cons, List.forall_mem_append]
    refine ⟨rfl, fun item h => ?_, fun item h => by rw [List.eq_of_mem_replicate h]; rfl⟩
    obtain ⟨t, -, h⟩ := List.mem_flatMap.1 h
    exact isApart_of_mem_laid item h

/-- The pieces of a tree are put together to its outline. -/
theorem Lawful.build_transcript (lawful : l.Lawful head) {t : Tree α σ} (plain : t.Plain head)
    (level : Nat) (outer : List (Frame ρ)) (items : List (Item ρ)) :
    build l.interpret ⟨outer, items⟩ (l.transcript level t) =
      some ⟨outer, items ++ laid level (t.outline l.start)⟩ := by
  -- The items read before do not matter to what is put behind them, so the induction is over any.
  induction plain generalizing level outer items with
  | leaf heads =>
    rw [transcript_nil, build_append (build_indent ..), build_append (lawful.build_leaf heads ..),
      build_cons (turn_newline ..)]
    simp [build, laid, Tree.outline, Tree.outlines]
  | @words h heads filled s =>
    rw [transcript_text, build_append (build_indent ..), build_cons (lawful.turn_opening heads ..),
      build_append (build_shown ..), List.nil_append,
      build_cons (turn_closing (contents?_shownItems s) ..), build_cons (turn_newline ..)]
    simp [build, laid, Tree.outline, Tree.outlines]
  | @block h children heads filled shows below ih =>
    have inner (outer : List (Frame ρ)) (items : List (Item ρ)) :
        build l.interpret ⟨outer, items⟩ (l.transcripts (level + 1) children) = some ⟨outer,
          items ++ children.flatMap fun t => laid (level + 1) (t.outline l.start)⟩ := by
      rw [transcripts_eq_flatMap]
      exact build_flatMap (fun t ht => ih t ht (level + 1)) outer items
    have contents := contents?_block shows below l.start level
    rw [transcript_block _ _ shows (Tree.ne_text_of_plain below), build_append (build_indent ..),
      build_cons (lawful.turn_opening heads ..), build_cons (turn_newline ..),
      build_append (inner ..), build_append (build_indent ..)]
    rw [← List.singleton_append, ← List.append_assoc] at contents
    rw [List.nil_append, build_cons (turn_closing contents ..), build_cons (turn_newline ..)]
    simp [build, laid, Tree.outline]

theorem Lawful.outline?_transcript (lawful : l.Lawful head) {t : Tree α σ} (plain : t.Plain head) :
    outline? l.interpret (l.transcript 0 t) = some (t.outline l.start) := by
  rw [outline?, lawful.build_transcript plain]
  exact contents?_apart (filterMap_laid _ _) (outline_ne_nil plain _) isApart_of_mem_laid

theorem Lawful.readClosed?_render (lawful : l.Lawful head) (expressions : l.expressions = true)
    {t : Tree α σ} (plain : t.Plain head) :
    readClosed? l.interpret (t.render l.dialect) = some (t.outline l.start) := by
  have pieces := lawful.pieces?_render plain
  have same : (l.transcript 0 t).map (plainly true) = l.transcript 0 t := by
    refine (List.map_congr_left fun piece _ => ?_).trans (List.map_id _)
    cases piece <;> rfl
  rw [expressions, same] at pieces
  rw [readClosed?, pieces, Option.bind_some, lawful.outline?_transcript plain]

end Build

end Language

end Parse

end MiniApp

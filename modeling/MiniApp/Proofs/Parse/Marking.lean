import MiniApp.Proofs.Parse.Transcript

/-!
Elements without end tags are told apart from the others, by their names where these agree with
that, and always by how the lines of a tree are laid out.
-/

set_option autoImplicit false

namespace MiniApp

open Parse

variable {α σ ρ : Type}

namespace Parse.Language

variable {l : Language α σ ρ} {head : Head α σ → Prop}

/-- What tells the pieces of a tree apart that look alike, when elements of some names, and no
others, have no end tag. -/
def NamedApart (names : List String) : Piece → Prop
  | .opening tag => tag.name ∉ names
  | .selfClosing tag => tag.name ∈ names
  | _ => True

theorem markNamed_plainly {names : List String} {piece : Piece} (h : NamedApart names piece) :
    markNamed names (plainly false piece) = piece := by
  cases piece with
  | char | closing => rfl
  | opening tag => exact if_neg h
  | selfClosing tag => exact if_pos h

section Named

variable {names : List String} (breaks : "br" ∈ names)
include breaks

theorem namedApart_shown (s : String) :
    ∀ piece ∈ shown (.selfClosing lineBreak) s, NamedApart names piece := by
  rw [shown, List.forall_mem_map]
  intro c _
  split
  · exact breaks
  · trivial

theorem Lawful.namedApart_transcript (lawful : l.Lawful head) (tags : l.expressions = false)
    {t : Tree α σ} (plain : t.Plain fun h => head h ∧ (h.name ∈ names ↔ h.isVoid = true))
    (level : Nat) : ∀ piece ∈ l.transcript level t, NamedApart names piece := by
  have indent (level : Nat) : ∀ piece ∈ indent level, NamedApart names piece := fun piece h => by
    rw [List.eq_of_mem_replicate h]
    trivial
  have opening {h : Head α σ} (agree : h.name ∈ names ↔ h.isVoid = true)
      (filled : h.isVoid = false) : NamedApart names (.opening (l.tag h)) := by
    change (l.tag h).name ∉ names
    rw [lawful.tag, agree, filled]
    exact Bool.false_ne_true
  induction plain generalizing level with
  | @leaf h heads =>
    rw [transcript_nil, List.forall_mem_append, List.forall_mem_append, leaf, tags, Bool.false_or]
    refine ⟨indent level, ?_, List.forall_mem_singleton.2 trivial⟩
    cases filled : h.isVoid with
    | true =>
      rw [if_pos rfl, List.forall_mem_singleton]
      change (l.tag h).name ∈ names
      rw [lawful.tag, heads.2, filled]
    | false =>
      rw [if_neg Bool.false_ne_true, List.forall_mem_cons, List.forall_mem_singleton]
      exact ⟨opening heads.2 filled, trivial⟩
  | words heads filled s =>
    simp only [transcript_text, List.forall_mem_append, List.forall_mem_cons]
    exact ⟨indent level, opening heads.2 filled, namedApart_shown breaks s, trivial, trivial,
      List.forall_mem_nil _⟩
  | @block h children heads filled shows below ih =>
    have inner : ∀ piece ∈ l.transcripts (level + 1) children, NamedApart names piece := by
      rw [transcripts_eq_flatMap]
      intro piece hp
      obtain ⟨t, ht, hp⟩ := List.mem_flatMap.1 hp
      exact ih t ht (level + 1) piece hp
    rw [transcript_block _ _ shows (Tree.ne_text_of_plain below)]
    simp only [List.forall_mem_append, List.forall_mem_cons]
    exact ⟨indent level, opening heads.2 filled, trivial, inner, indent level, trivial, trivial,
      List.forall_mem_nil _⟩

end Named

section Laid

theorem markLaid_indent (level column : Nat) (pieces : List Piece) :
    markLaid column (indent level ++ pieces) =
      indent level ++ markLaid (column + 2 * level) pieces := by
  rw [indent]
  generalize 2 * level = n
  induction n generalizing column with
  | zero => rfl
  | succ n ih =>
    rw [List.replicate_succ, List.cons_append, markLaid, if_neg (by decide), ih, List.cons_append,
      Nat.add_assoc, Nat.add_comm 1 n]

theorem markLaid_newline (column : Nat) (pieces : List Piece) :
    markLaid column (newline :: pieces) = newline :: markLaid 0 pieces := rfl

theorem margin_indent (level : Nat) {piece : Piece} (h : piece ≠ .char ' ') (pieces : List Piece) :
    margin (indent level ++ piece :: pieces) = 2 * level := by
  have blanks : ∀ p ∈ indent level, decide (p = .char ' ') = true := fun p hp => by
    rw [List.eq_of_mem_replicate hp]
    rfl
  rw [margin, List.takeWhile_append_of_pos blanks, List.takeWhile_cons_of_neg (by simpa using h),
    List.append_nil, indent, List.length_replicate]

theorem map_leaf (h : Head α σ) :
    ∃ pieces, (l.leaf h).map (plainly false) = .opening (l.tag h) :: pieces := by
  rw [leaf]
  split <;> exact ⟨_, rfl⟩

theorem margin_transcript {t : Tree α σ} (plain : t.Plain head) (level : Nat) (rest : List Piece) :
    margin ((l.transcript level t).map (plainly false) ++ rest) = 2 * level := by
  cases plain with
  | @leaf h heads =>
    obtain ⟨pieces, written⟩ := map_leaf (l := l) h
    rw [transcript_nil, List.map_append, List.map_append, map_indent, written, List.cons_append,
      List.append_assoc, List.cons_append, margin_indent level (by simp)]
  | words heads filled s =>
    rw [transcript_text, List.map_append, List.map_cons, map_indent, List.append_assoc,
      List.cons_append, margin_indent level (by simp)]
  | block heads filled shows below =>
    rw [transcript_block _ _ shows (Tree.ne_text_of_plain below), List.map_append, List.map_cons,
      map_indent, List.append_assoc, List.cons_append, margin_indent level (by simp)]

theorem margin_transcripts {ts : List (Tree α σ)} (shows : ts ≠ [])
    (plain : ∀ t ∈ ts, t.Plain head) (level : Nat) (rest : List Piece) :
    margin ((l.transcripts level ts).map (plainly false) ++ rest) = 2 * level := by
  obtain ⟨t, ts, rfl⟩ := List.exists_cons_of_ne_nil shows
  rw [transcripts, List.map_append, List.append_assoc,
    margin_transcript (plain t List.mem_cons_self)]

theorem markLaid_shown (column : Nat) (s : String) (pieces : List Piece) :
    ∃ column', markLaid column ((shown (.selfClosing lineBreak) s).map (plainly false) ++ pieces) =
      shown (.selfClosing lineBreak) s ++ markLaid column' pieces := by
  rw [shown]
  generalize Text.joinBreaks s.toList = cs
  induction cs generalizing column with
  | nil => exact ⟨column, rfl⟩
  | cons c cs ih =>
    simp only [List.map_cons, List.cons_append]
    split
    · obtain ⟨column', rest⟩ := ih column
      refine ⟨column', ?_⟩
      rw [plainly_selfClosing, markLaid, if_pos (.inl rfl), rest]
    · obtain ⟨column', rest⟩ := ih (if c = '\n' then 0 else column + 1)
      refine ⟨column', ?_⟩
      rw [plainly_char, markLaid, rest]

theorem endsLevel_shown (column : Nat) (s : String) (name : String) (pieces : List Piece) :
    endsLevel column ((shown (.selfClosing lineBreak) s).map (plainly false) ++
      .closing name :: pieces) = false := by
  rw [shown]
  cases Text.joinBreaks s.toList with
  | nil => rfl
  | cons c cs =>
    rw [List.map_cons, List.map_cons, List.cons_append]
    split
    · rfl
    · next other => simp [endsLevel, other]

section Elements

variable (lawful : l.Lawful head) {h : Head α σ} (heads : head h)
include lawful heads

theorem Lawful.markLaid_opening {column : Nat} {pieces : List Piece}
    (goesOn : endsLevel column pieces = false) :
    markLaid column (.opening (l.tag h) :: pieces) =
      .opening (l.tag h) :: markLaid column pieces := by
  rw [markLaid, if_neg]
  rintro (same | ends)
  · exact lawful.ne_lineBreak heads same
  · exact Bool.false_ne_true (goesOn.symm.trans ends)

theorem Lawful.markLaid_leaf (tags : l.expressions = false) {level : Nat} {rest : List Piece}
    (higher : margin rest ≤ 2 * level) :
    markLaid (2 * level) ((l.leaf h).map (plainly false) ++ newline :: rest) =
      l.leaf h ++ newline :: markLaid 0 rest := by
  rw [leaf, tags, Bool.false_or]
  split
  · have ends : endsLevel (2 * level) (newline :: rest) = true := by
      simpa [newline, endsLevel] using higher
    rw [List.map_singleton, List.singleton_append, plainly_selfClosing, markLaid,
      if_pos (.inr ends), markLaid_newline, List.singleton_append]
  · exact lawful.markLaid_opening heads rfl

end Elements

theorem Lawful.markLaid_transcript (lawful : l.Lawful head) (tags : l.expressions = false)
    {t : Tree α σ} (plain : t.Plain head) {level : Nat} {rest : List Piece}
    (higher : margin rest ≤ 2 * level) :
    markLaid 0 ((l.transcript level t).map (plainly false) ++ rest) =
      l.transcript level t ++ markLaid 0 rest := by
  induction plain generalizing level rest with
  | leaf heads =>
    rw [transcript_nil, List.map_append, List.map_append, map_indent, List.append_assoc,
      List.append_assoc, markLaid_indent, Nat.zero_add]
    change indent level ++ markLaid _ (_ ++ newline :: rest) = _
    rw [lawful.markLaid_leaf heads tags higher]
    simp
  | @words h heads filled s =>
    have written : (l.transcript level (.element h [.text s])).map (plainly false) ++ rest =
        indent level ++ .opening (l.tag h) ::
          ((shown (.selfClosing lineBreak) s).map (plainly false) ++
            .closing h.name :: newline :: rest) := by
      rw [transcript_text]
      simp [map_indent, newline]
    obtain ⟨column, text⟩ := markLaid_shown (0 + 2 * level) s (.closing h.name :: newline :: rest)
    rw [written, markLaid_indent, lawful.markLaid_opening heads (endsLevel_shown ..), text,
      transcript_text]
    simp [markLaid, newline]
  | @block h children heads filled shows below ih =>
    -- A child is followed by a sibling on its level, or by the end tag of the block.
    have inner {rest : List Piece} (higher : margin rest ≤ 2 * (level + 1)) :
        markLaid 0 ((l.transcripts (level + 1) children).map (plainly false) ++ rest) =
          l.transcripts (level + 1) children ++ markLaid 0 rest := by
      clear shows
      induction children with
      | nil => rfl
      | cons t ts ih' =>
        rw [List.forall_mem_cons] at below ih
        have next : margin ((l.transcripts (level + 1) ts).map (plainly false) ++ rest) ≤
            2 * (level + 1) := by
          by_cases none : ts = []
          · subst none
            exact higher
          · exact Nat.le_of_eq (margin_transcripts none below.2 _ _)
        rw [transcripts, List.map_append, List.append_assoc, ih.1 next, ih' below.2 ih.2,
          List.append_assoc]
    have written : (l.transcript level (.element h children)).map (plainly false) ++ rest =
        indent level ++ .opening (l.tag h) :: newline ::
          ((l.transcripts (level + 1) children).map (plainly false) ++
            (indent level ++ .closing h.name :: newline :: rest)) := by
      rw [transcript_block _ _ shows (Tree.ne_text_of_plain below)]
      simp [map_indent, newline]
    have deeper : endsLevel (0 + 2 * level) (newline ::
        ((l.transcripts (level + 1) children).map (plainly false) ++
          (indent level ++ .closing h.name :: newline :: rest))) = false := by
      rw [newline, endsLevel, margin_transcripts shows below]
      simp
    have closing : margin (indent level ++ .closing h.name :: newline :: rest) ≤
        2 * (level + 1) := by
      rw [margin_indent level (by simp)]
      omega
    rw [written, markLaid_indent, lawful.markLaid_opening heads deeper, markLaid_newline,
      inner closing, markLaid_indent, transcript_block _ _ shows (Tree.ne_text_of_plain below)]
    simp [markLaid, newline]

end Laid

/-- Where names agree with it, the reader that goes by names reads a tree back. -/
theorem Lawful.readNamed?_render (lawful : l.Lawful head) (tags : l.expressions = false)
    {t : Tree α σ} (plain : t.Plain head) {names : List String} (breaks : "br" ∈ names)
    (named : t.Plain fun h => h.name ∈ names ↔ h.isVoid = true) :
    readNamed? l.interpret names (t.render l.dialect) = some (t.outline l.start) := by
  have pieces := lawful.pieces?_render plain
  have apart := lawful.namedApart_transcript breaks tags (plain.and named) 0
  have marked : ((l.transcript 0 t).map (plainly false)).map (markNamed names) =
      l.transcript 0 t := by
    rw [List.map_map]
    refine (List.map_congr_left fun piece here => ?_).trans (List.map_id _)
    exact markNamed_plainly (apart piece here)
  rw [tags] at pieces
  rw [readNamed?, pieces, Option.bind_some, marked, lawful.outline?_transcript plain]

/-- The reader that goes by the layout reads every tree back. -/
theorem Lawful.readLaid?_render (lawful : l.Lawful head) (tags : l.expressions = false)
    {t : Tree α σ} (plain : t.Plain head) :
    readLaid? l.interpret (t.render l.dialect) = some (t.outline l.start) := by
  have pieces := lawful.pieces?_render plain
  have higher : margin [] ≤ 2 * 0 := Nat.le_refl 0
  have marked := lawful.markLaid_transcript tags plain higher
  rw [tags] at pieces
  rw [List.append_nil, markLaid, List.append_nil] at marked
  rw [readLaid?, pieces, Option.bind_some, marked, lawful.outline?_transcript plain]

end Parse.Language

end MiniApp

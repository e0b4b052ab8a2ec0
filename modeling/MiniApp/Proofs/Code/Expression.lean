import Mathlib.Data.Bool.AllAny
import Mathlib.Data.List.Forall2
import MiniApp.Proofs.Code.Grammar

set_option autoImplicit false

namespace MiniApp

namespace Script

mutual

/-- The same expression with the number in place of each that its numeral stands for. -/
def shown : Script → Script
  | .number d => .number ((Numeral.value? (Numeral.text d).toList).getD d)
  | .list items => .list (shownItems items)
  | .record fields => .record (shownFields fields)
  | e => e

def shownItems : List Script → List Script
  | [] => []
  | e :: es => shown e :: shownItems es

def shownFields : List (String × Script) → List (String × Script)
  | [] => []
  | (key, e) :: fields => (key, shown e) :: shownFields fields

end

theorem shownItems_eq_map (es : List Script) : shownItems es = es.map shown := by
  induction es with
  | nil => rfl
  | cons e es ih => rw [shownItems, ih, List.map_cons]

theorem shownFields_eq_map (fields : List (String × Script)) :
    shownFields fields = fields.map fun f => (f.1, f.2.shown) := by
  induction fields with
  | nil => rfl
  | cons f fields ih => rw [shownFields, ih, List.map_cons]

end Script

namespace Code

section Literals

/-- Expressions without code of their own: the names in records are names, and the numbers are
written as numerals. -/
inductive IsLiteral (a : Alphabet) : Script → Prop
  | text (s : String) : IsLiteral a (.text s)
  | number {d : Double} (readable : Numeral.text d ∉ Numeral.unreadable) : IsLiteral a (.number d)
  | bool (b : Bool) : IsLiteral a (.bool b)
  | list {items : List Script} (values : ∀ e ∈ items, IsLiteral a e) : IsLiteral a (.list items)
  | record {fields : List (String × Script)} (names : ∀ f ∈ fields, a.isName f.1.toList = true)
      (values : ∀ f ∈ fields, IsLiteral a f.2) : IsLiteral a (.record fields)

end Literals

section Items

def closings : List Char := [',', ')', ']', '\x7d']

theorem closings_subset_marks : closings ⊆ marks := by decide

structure Item (a : Alphabet) {α : Type} (item? : List Char → Option (α × List Char))
    (text : String) (value : α) : Prop where
  opens : ∃ c cs, text.toList = c :: cs ∧ isSpace c = false ∧ c ∉ closings
  reads : ∀ rest, a.Ends rest → item? (text.toList ++ rest) = some (value, rest)

variable {a : Alphabet} {α : Type} {item? : List Char → Option (α × List Char)}

theorem skip_cons {c : Char} (h : isSpace c = false) (cs : List Char) : skip (c :: cs) = c :: cs :=
  List.dropWhile_cons_of_neg (Bool.eq_false_iff.1 h)

theorem skip_blank (cs : List Char) : skip (' ' :: cs) = skip cs := rfl

theorem Item.skip_append {text : String} {value : α} (h : Item a item? text value)
    (rest : List Char) : skip (text.toList ++ rest) = text.toList ++ rest := by
  obtain ⟨c, cs, text, space, -⟩ := h.opens
  rw [text, List.cons_append, skip_cons space]

theorem exists_joined {t : String} (ts : List String) (rest : List Char) :
    ∃ behind, (", ".intercalate (t :: ts)).toList ++ rest = t.toList ++ behind := by
  cases ts with
  | nil => exact ⟨rest, by rw [String.intercalate_singleton]⟩
  | cons u ts =>
    exact ⟨", ".toList ++ (", ".intercalate (u :: ts)).toList ++ rest, by
      rw [String.intercalate_cons_cons, String.toList_append, String.toList_append]
      simp only [List.append_assoc]⟩

theorem items?_joined {texts : List String} {values : List α}
    (items : List.Forall₂ (Item a item?) texts values) (some : texts ≠ []) {close : Char}
    (other : close ≠ ',') {tail rest : List Char} (ends : a.Ends tail)
    (closes : skip tail = close :: rest) {n : Nat} (enough : texts.length ≤ n) {cs : List Char}
    (start : skip cs = (", ".intercalate texts).toList ++ tail) :
    items? item? close n cs = .some (values, rest) := by
  induction items generalizing n cs with
  | nil => exact absurd rfl some
  | @cons t v ts vs item items ih =>
    obtain ⟨n, rfl⟩ : ∃ m, n = m + 1 := ⟨n - 1, by rw [List.length_cons] at enough; omega⟩
    cases items with
    | nil =>
      rw [String.intercalate_singleton] at start
      rw [items?, start, item.reads tail ends, Option.bind_eq_bind, Option.bind_some]
      simp only [closes, if_neg other, if_true]
    | @cons u w us ws item' items =>
      -- the comma ends the first item, and the blank behind it is skipped before the next one
      have next : skip (' ' :: ((", ".intercalate (u :: us)).toList ++ tail)) =
          (", ".intercalate (u :: us)).toList ++ tail := by
        obtain ⟨behind, joined⟩ := exists_joined (t := u) us tail
        rw [skip_blank, joined, item'.skip_append]
      have others := ih (List.cons_ne_nil _ _) (Nat.le_of_succ_le_succ enough) next
      have parted : skip cs =
          t.toList ++ (',' :: ' ' :: ((", ".intercalate (u :: us)).toList ++ tail)) := by
        rw [start, String.intercalate_cons_cons]
        simp
      have comma (cs : List Char) : skip (',' :: cs) = ',' :: cs := skip_cons (by decide) cs
      rw [items?, parted, item.reads _ (a.ends_cons (by decide) _), Option.bind_eq_bind,
        Option.bind_some]
      simp only [comma, if_true, others, Option.map_some]

theorem length_le_joined {texts : List String} {values : List α}
    (items : List.Forall₂ (Item a item?) texts values) :
    texts.length ≤ (", ".intercalate texts).toList.length := by
  have shows {t : String} {v : α} (item : Item a item? t v) : 1 ≤ t.toList.length := by
    obtain ⟨c, cs, text, -⟩ := item.opens
    rw [text, List.length_cons]
    exact Nat.le_add_left 1 _
  induction items with
  | nil => exact Nat.zero_le _
  | @cons t v ts vs item items ih =>
    have first := shows item
    cases items with
    | nil => rwa [String.intercalate_singleton]
    | cons =>
      rw [String.intercalate_cons_cons, String.toList_append, String.toList_append,
        List.length_append, List.length_append, List.length_cons]
      omega

theorem list?_joined {texts : List String} {values : List α}
    (items : List.Forall₂ (Item a item?) texts values) (close : Char) (bracket : close ∈ closings)
    (other : close ≠ ',') {tail rest : List Char} (ends : a.Ends tail)
    (closes : skip tail = close :: rest) {cs : List Char}
    (start : skip cs = skip ((", ".intercalate texts).toList ++ tail)) :
    list? item? close cs = some (values, rest) := by
  rw [list?, start]
  cases items with
  | nil =>
    rw [String.intercalate_nil, String.toList_empty, List.nil_append, closes]
    exact if_pos rfl
  | @cons t v ts vs item items =>
    have all : List.Forall₂ (Item a item?) (t :: ts) (v :: vs) := .cons item items
    obtain ⟨behind, joined⟩ := exists_joined (t := t) ts tail
    obtain ⟨c, text, letters, -, first⟩ := item.opens
    have skipped : skip ((", ".intercalate (t :: ts)).toList ++ tail) =
        (", ".intercalate (t :: ts)).toList ++ tail := joined ▸ item.skip_append behind
    have enough : (t :: ts).length ≤ (text ++ behind).length + 1 := by
      have joined := congrArg List.length joined
      rw [letters, List.cons_append, List.length_append, List.length_cons] at joined
      have := length_le_joined all
      omega
    have opened : c :: (text ++ behind) = (", ".intercalate (t :: ts)).toList ++ tail := by
      rw [joined, letters, List.cons_append]
    rw [skipped, ← opened]
    dsimp only
    rw [if_neg fun same : c = close => first (same ▸ bracket)]
    exact items?_joined all (List.cons_ne_nil t ts) other ends closes enough
      (by rw [opened, skipped])

end Items

section Scalars

variable {a : Alphabet}

theorem item_literal (s : String) : Item a a.scalar? (Escape.literal s) (.text s) where
  opens := ⟨'\'', (Escape.script s ++ "'").toList, by simp [Escape.literal], by decide, by decide⟩
  reads rest _ := by
    rw [Alphabet.scalar?, StringLiteral.value?_literal]
    simp only [StringLiteral.text?_units, Option.map_some, String.ofList_toList]

theorem item_word {word : String} {e : Script} (some : word ≠ "")
    (inside : ∀ c ∈ word.toList, a.isWordChar c = true) (read : word? word.toList = .some e) :
    Item a a.scalar? word e := by
  obtain ⟨c, cs, letters⟩ := List.exists_cons_of_ne_nil fun nil => some (String.toList_inj.1 nil)
  have first : a.isWordChar c = true := inside c (letters ▸ List.mem_cons_self)
  refine ⟨⟨c, cs, letters, a.isSpace_of_isWordChar first, fun close => ?_⟩, fun rest ends => ?_⟩
  · exact a.ne_of_isWordChar first (closings_subset_marks close) rfl
  · have none : StringLiteral.value? (word.toList ++ rest) = none := by
      rw [letters, List.cons_append, StringLiteral.value?,
        if_neg (a.ne_of_isWordChar first (by decide))]
    obtain ⟨run, behind⟩ := Text.run_append inside rest ends
    rw [Alphabet.scalar?, none]
    simp only [run, behind, read, Option.map_some]

theorem isWordChar_numeral (d : Double) : ∀ c ∈ (Numeral.text d).toList, a.isWordChar c = true := by
  have letters : (Numeral.marks.all fun c => c.isAlphanum || c == '.' || c == '-') = true := by
    decide
  refine Numeral.forall_text
    (fun c digit => a.isWordChar_letter (Text.isAlphanum_of_isDigit digit)) (fun c hc => ?_) d
  have here := List.all_eq_true.1 letters c hc
  rw [Bool.or_eq_true, Bool.or_eq_true, beq_iff_eq, beq_iff_eq] at here
  rcases here with (letter | rfl) | rfl
  · exact a.isWordChar_letter letter
  · simp [Alphabet.isWordChar]
  · simp [Alphabet.isWordChar]

theorem item_number {d : Double} (readable : Numeral.text d ∉ Numeral.unreadable) :
    Item a a.scalar? (Numeral.text d) (Script.number d).shown := by
  have letters : ∀ c ∈ (Numeral.text d).toList, c ≠ 'e' :=
    Numeral.forall_text (fun c digit same => by rw [same] at digit; cases digit)
      (List.all_iff_forall_prop.1 (by decide)) d
  refine item_word (Numeral.text_ne_empty d) (isWordChar_numeral d) ?_
  obtain ⟨value, read⟩ := Option.isSome_iff_exists.1 (Numeral.isSome_value? readable)
  have noTrue : (Numeral.text d).toList ≠ ['t', 'r', 'u', 'e'] := fun same =>
    letters 'e' (by rw [same]; decide) rfl
  have noFalse : (Numeral.text d).toList ≠ ['f', 'a', 'l', 's', 'e'] := fun same =>
    letters 'e' (by rw [same]; decide) rfl
  rw [word?, if_neg noTrue, if_neg noFalse, read, Script.shown, read]
  rfl

theorem isWordChar_boolText (b : Bool) :
    ∀ c ∈ (Script.boolText b).toList, a.isWordChar c = true := by
  have letters : (Script.boolText b).toList.all Char.isAlphanum = true := by cases b <;> decide
  exact fun c hc => a.isWordChar_letter (List.all_eq_true.1 letters c hc)

theorem item_bool (b : Bool) : Item a a.scalar? (Script.boolText b) (.bool b) := by
  refine item_word ?_ (isWordChar_boolText b) ?_
  · cases b <;> decide
  · cases b <;> rfl

end Scalars

section Expressions

variable {a : Alphabet}

theorem item_field {value? : List Char → Option (Script × List Char)} {key text : String}
    {e : Script} (name : a.isName key.toList = true) (value : Item a value? text e) :
    Item a (a.field? value?) (key ++ ": " ++ text) (key, e) := by
  have letters := a.all_continues name
  obtain ⟨c, cs, start⟩ : ∃ c cs, key.toList = c :: cs :=
    List.exists_cons_of_ne_nil fun nil => by rw [nil] at name; cases name
  have first : a.isWordChar c = true :=
    a.isWordChar_of_continues (letters c (start ▸ List.mem_cons_self))
  refine ⟨⟨c, cs ++ (": ".toList ++ text.toList), by simp [start], a.isSpace_of_isWordChar first,
    fun close => ?_⟩, fun rest ends => ?_⟩
  · exact a.ne_of_isWordChar first (closings_subset_marks close) rfl
  · have written : (key ++ ": " ++ text).toList ++ rest =
        key.toList ++ ':' :: ' ' :: (text.toList ++ rest) := by simp
    obtain ⟨run, behind⟩ := Text.run_append letters (':' :: ' ' :: (text.toList ++ rest))
      fun _ same => Option.some.inj same ▸ a.continues_mark (by decide)
    have colon (cs : List Char) : skip (':' :: cs) = ':' :: cs := skip_cons (by decide) cs
    have blank : skip (' ' :: (text.toList ++ rest)) = text.toList ++ rest := by
      rw [skip_blank, value.skip_append]
    rw [written, Alphabet.field?]
    simp only [run, behind, name, if_true, colon, blank, value.reads rest ends, Option.map_some,
      String.ofList_toList]

theorem Item.expression {text : String} {e : Script} (h : Item a a.scalar? text e)
    (other : ∀ c ∈ text.toList.head?, c ≠ '[' ∧ c ≠ '\x7b') (n : Nat) :
    Item a (a.expression? (n + 1)) text e := by
  refine ⟨h.opens, fun rest ends => ?_⟩
  obtain ⟨c, cs, letters, -⟩ := h.opens
  have read := h.reads rest ends
  obtain ⟨list, record⟩ := other c (by rw [letters]; rfl)
  rw [letters, List.cons_append] at read ⊢
  unfold Alphabet.expression?
  split
  · next none => cases none
  · next same => exact absurd (List.cons.inj same).1 list
  · next same => exact absurd (List.cons.inj same).1 record
  · exact read

theorem Item.expression_of_word {text : String} {e : Script} (h : Item a a.scalar? text e)
    (inside : ∀ c ∈ text.toList, a.isWordChar c = true) (n : Nat) :
    Item a (a.expression? (n + 1)) text e := by
  refine h.expression (fun c hc => ?_) n
  have first := inside c (List.mem_of_mem_head? hc)
  exact ⟨a.ne_of_isWordChar first (by decide), a.ne_of_isWordChar first (by decide)⟩

theorem length_le_of_mem {texts : List String} {t : String} (h : t ∈ texts) :
    t.toList.length ≤ (", ".intercalate texts).toList.length := by
  induction texts with
  | nil => cases h
  | cons u texts ih =>
    cases texts with
    | nil =>
      rw [List.mem_singleton.1 h, String.intercalate_singleton]
    | cons v texts =>
      rw [String.intercalate_cons_cons, String.toList_append, String.toList_append,
        List.length_append, List.length_append]
      rcases List.mem_cons.1 h with rfl | h
      · omega
      · have := ih h
        omega

theorem length_item_lt {items : List Script} {e : Script} (h : e ∈ items) :
    e.render.toList.length < (Script.list items).render.toList.length := by
  have inside := length_le_of_mem (List.mem_map_of_mem (f := Script.render) h)
  rw [Script.render, Script.renderItems_eq_map, String.toList_append, String.toList_append,
    List.length_append, List.length_append]
  exact Nat.lt_of_le_of_lt (Nat.le_trans inside (Nat.le_add_left _ _)) (Nat.lt_add_one _)

theorem length_field_lt {fields : List (String × Script)} {f : String × Script} (h : f ∈ fields) :
    f.2.render.toList.length < (Script.record fields).render.toList.length := by
  have inside := length_le_of_mem
    (List.mem_map_of_mem (f := fun f : String × Script => f.1 ++ ": " ++ f.2.render) h)
  rw [String.toList_append, List.length_append] at inside
  rw [Script.render, Script.renderFields_eq_map, String.toList_append, String.toList_append,
    List.length_append, List.length_append]
  · exact Nat.lt_of_le_of_lt (Nat.le_trans (Nat.le_trans (Nat.le_add_left _ _) inside)
      (Nat.le_add_left _ _)) (Nat.lt_add_of_pos_right (by decide))
  · exact List.ne_nil_of_mem h

theorem item_list {items : List Script} {n : Nat}
    (parts : ∀ e ∈ items, Item a (a.expression? n) e.render e.shown) :
    Item a (a.expression? (n + 1)) (Script.list items).render (Script.list items).shown := by
  have parts : List.Forall₂ (Item a (a.expression? n)) (items.map Script.render)
      (items.map Script.shown) := by
    rwa [List.forall₂_map_left_iff, List.forall₂_map_right_iff, List.forall₂_same]
  rw [Script.render, Script.renderItems_eq_map, Script.shown, Script.shownItems_eq_map]
  refine ⟨⟨'[', _, by simp; rfl, by decide, by decide⟩, fun rest ends => ?_⟩
  have read := list?_joined parts ']' (by decide) (by decide)
    (a.ends_cons (by decide) rest) (skip_cons (by decide) rest) rfl
  have written : ("[" ++ ", ".intercalate (items.map Script.render) ++ "]").toList ++ rest =
      '[' :: ((", ".intercalate (items.map Script.render)).toList ++ ']' :: rest) := by simp
  rw [written, Alphabet.expression?, read, Option.map_some]

theorem item_record {fields : List (String × Script)} {n : Nat}
    (names : ∀ f ∈ fields, a.isName f.1.toList = true)
    (parts : ∀ f ∈ fields, Item a (a.expression? n) f.2.render f.2.shown) :
    Item a (a.expression? (n + 1)) (Script.record fields).render (Script.record fields).shown := by
  have parts : List.Forall₂ (Item a (a.field? (a.expression? n)))
      (fields.map fun f => f.1 ++ ": " ++ f.2.render) (fields.map fun f => (f.1, f.2.shown)) := by
    rw [List.forall₂_map_left_iff, List.forall₂_map_right_iff, List.forall₂_same]
    exact fun f hf => item_field (names f hf) (parts f hf)
  rw [Script.shown, Script.shownFields_eq_map]
  cases fields with
  | nil =>
    refine ⟨⟨'\x7b', ['\x7d'], rfl, by decide, by decide⟩, fun rest ends => ?_⟩
    have read := list?_joined parts '\x7d' (by decide) (by decide)
      (a.ends_cons (by decide) rest) (skip_cons (by decide) rest) rfl
    exact congrArg (Option.map fun r => (Script.record r.1, r.2)) read
  | cons f fields =>
    rw [Script.render, Script.renderFields_eq_map]
    · generalize (f :: fields).map (fun f => f.1 ++ ": " ++ f.2.render) = texts at parts ⊢
      refine ⟨⟨'\x7b', _, by simp; rfl, by decide, by decide⟩, fun rest ends => ?_⟩
      have read := list?_joined parts '\x7d' (by decide) (by decide)
        (a.ends_cons (c := ' ') (by decide) ('\x7d' :: rest))
        (by rw [skip_blank, skip_cons (by decide)])
        (skip_blank ((", ".intercalate texts).toList ++ ' ' :: '\x7d' :: rest))
      have written : ("\x7b " ++ ", ".intercalate texts ++ " \x7d").toList ++ rest =
          '\x7b' :: ' ' :: ((", ".intercalate texts).toList ++ ' ' :: '\x7d' :: rest) := by simp
      rw [written, Alphabet.expression?, read, Option.map_some]
    · exact List.cons_ne_nil f fields

/-- A literal is read as itself, wherever no word goes on behind it. -/
theorem item_expression {e : Script} (literal : IsLiteral a e) :
    ∀ n, e.render.toList.length ≤ n → Item a (a.expression? (n + 1)) e.render e.shown := by
  induction literal with
  | text s =>
    intro n _
    refine (item_literal s).expression ?_ n
    simp [Escape.literal]
  | @number d readable =>
    intro n _
    exact (item_number readable).expression_of_word (isWordChar_numeral d) n
  | bool b =>
    intro n _
    exact (item_bool b).expression_of_word (isWordChar_boolText b) n
  | list _ ih =>
    intro n enough
    refine item_list fun e he => ?_
    have shorter := length_item_lt he
    obtain ⟨n, rfl⟩ : ∃ m, n = m + 1 := ⟨n - 1, by omega⟩
    exact ih e he n (by omega)
  | record names _ ih =>
    intro n enough
    refine item_record names fun f hf => ?_
    have shorter := length_field_lt hf
    obtain ⟨n, rfl⟩ : ∃ m, n = m + 1 := ⟨n - 1, by omega⟩
    exact ih f hf n (by omega)

theorem read?_render {e : Script} (literal : IsLiteral a e) : a.read? e.render = some e.shown := by
  have read := (item_expression literal e.render.toList.length (Nat.le_refl _)).reads [] a.ends_nil
  rw [List.append_nil] at read
  rw [Alphabet.read?, read]
  exact if_pos rfl

theorem isPathChar_of_isPath {path : List Char} (h : a.isPath path = true) :
    ∀ c ∈ path, (a.continues c || c == '.') = true := by
  have names : ∀ name ∈ Text.splitWhere (· == '.') path, ∀ c ∈ name, a.continues c = true :=
    fun name hn => a.all_continues (List.all_eq_true.1 h name hn)
  intro c hc
  rw [Bool.or_eq_true]
  exact Text.forall_of_splitWhere names c hc

theorem readCall?_call {callee : String} {args : List Script} (path : a.isPath callee.toList = true)
    (literals : ∀ e ∈ args, IsLiteral a e) :
    a.readCall? (Script.call callee args) = some (callee, args.map Script.shown) := by
  generalize texts_eq : args.map Script.render = texts
  have written : (Script.call callee args).toList =
      callee.toList ++ '(' :: ((", ".intercalate texts).toList ++ [')']) := by
    simp [Script.call, Script.renderItems_eq_map, texts_eq]
  have parts : List.Forall₂
      (Item a (a.expression? (((", ".intercalate texts).toList ++ [')']).length + 1))) texts
      (args.map Script.shown) := by
    rw [← texts_eq, List.forall₂_map_left_iff, List.forall₂_map_right_iff, List.forall₂_same]
    intro e he
    have inside := length_le_of_mem (List.mem_map_of_mem (f := Script.render) he)
    exact item_expression (literals e he) _ (by rw [List.length_append]; omega)
  have read := list?_joined parts ')' (by decide) (by decide)
    (a.ends_cons (by decide) []) (skip_cons (by decide) []) rfl
  obtain ⟨run, behind⟩ := Text.run_append (isPathChar_of_isPath path)
    ('(' :: ((", ".intercalate texts).toList ++ [')']))
    fun _ same => Option.some.inj same ▸ by rw [a.continues_mark (by decide)]; rfl
  have open_ (cs : List Char) : skip ('(' :: cs) = '(' :: cs := skip_cons (by decide) cs
  rw [Alphabet.readCall?, written]
  simp only [run, behind, path, if_true, open_, read, String.ofList_toList]
  rfl

/-- Literals are read as what they were written from, and so are the calls that they are arguments
of. Whatever texts they hold, two of them are written alike only when they stand for the same. -/
theorem expressions_read_back (a : Alphabet) :
    (∀ e, IsLiteral a e → a.read? e.render = some e.shown) ∧
      (∀ callee args, a.isPath callee.toList = true → (∀ e ∈ args, IsLiteral a e) →
        a.readCall? (Script.call callee args) = some (callee, args.map Script.shown)) ∧
      (∀ e e', IsLiteral a e → IsLiteral a e' → e.render = e'.render → e.shown = e'.shown) := by
  refine ⟨fun _ => read?_render, fun _ _ => readCall?_call, fun e e' literal literal' same => ?_⟩
  have read := read?_render literal
  rw [same, read?_render literal'] at read
  exact (Option.some.inj read).symm

end Expressions

section CodeLikeTexts

def sample : Script :=
  .record [("label", .text "'); alert(1, \x7b a: '"),
    ("counts", .list [.number (.ofNat 2), .bool false, .record []])]

theorem isLiteral_sample : IsLiteral .low sample := by
  have two : Numeral.text (.ofNat 2) ∉ Numeral.unreadable := by decide +kernel
  have counts : IsLiteral .low (.list [.number (.ofNat 2), .bool false, .record []]) := by
    refine .list ?_
    simp only [List.forall_mem_cons]
    refine ⟨.number two, .bool false, .record ?_ ?_, ?_⟩ <;> exact List.forall_mem_nil _
  refine .record ?_ ?_ <;> simp only [List.forall_mem_cons]
  · exact ⟨by decide, by decide, List.forall_mem_nil _⟩
  · exact ⟨.text _, counts, List.forall_mem_nil _⟩

theorem sample_read_back :
    Alphabet.low.read? sample.render = some sample.shown ∧
      Alphabet.low.readCall? (Script.call "AppBridge.toast" [.text "a, 'b')", sample]) =
        some ("AppBridge.toast", [.text "a, 'b')", sample.shown]) ∧
      (Script.number (Decimal.toDouble ⟨false, 2001, -3⟩)).shown =
        (Script.number (.ofNat 2)).shown := by
  obtain ⟨expressions, calls, unique⟩ := expressions_read_back .low
  refine ⟨expressions sample isLiteral_sample, ?_, unique _ _ (.number ?_) (.number ?_) ?_⟩
  rotate_left
  iterate 3 decide +kernel
  exact calls "AppBridge.toast" [.text "a, 'b')", sample] (by decide)
    (List.forall_mem_cons.2 ⟨.text _, List.forall_mem_singleton.2 isLiteral_sample⟩)

end CodeLikeTexts

end Code

end MiniApp

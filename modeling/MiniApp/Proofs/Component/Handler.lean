import MiniApp.Proofs.Code.Tokens
import MiniApp.Proofs.Markup.Escaped

set_option autoImplicit false

namespace MiniApp

open Markup (isCodeChar)

/-- Text that can stand in an attribute that holds code. -/
def IsCode (s : String) : Prop := ∀ c ∈ s.toList, isCodeChar c = true

instance (s : String) : Decidable (IsCode s) :=
  decidable_of_iff (s.toList.all isCodeChar = true) List.all_eq_true

section Characters

variable {p : Char → Prop}

theorem forall_append {s t : String} (hs : ∀ c ∈ s.toList, p c) (ht : ∀ c ∈ t.toList, p c) :
    ∀ c ∈ (s ++ t).toList, p c := by
  rw [String.toList_append]
  exact List.forall_mem_append.2 ⟨hs, ht⟩

theorem forall_intercalate {s : String} {parts : List String} (hs : ∀ c ∈ s.toList, p c)
    (hp : ∀ t ∈ parts, ∀ c ∈ t.toList, p c) : ∀ c ∈ (s.intercalate parts).toList, p c := by
  induction parts with
  | nil => simp
  | cons t parts ih =>
    have rest := ih fun u hu => hp u (List.mem_cons_of_mem _ hu)
    cases parts with
    | nil => simpa using hp t List.mem_cons_self
    | cons u parts =>
      rw [String.intercalate_cons_cons]
      exact forall_append (forall_append (hp t List.mem_cons_self) hs) rest

/-- What data is written with, beside names, literals and numerals. -/
def dataMarks : List Char := ['\x7b', '\x7d', '[', ']', ',', ':', ' ']

theorem forall_fixed {marks : List Char} (hp : ∀ c ∈ marks, p c) {s : String}
    (hs : s.toList.all marks.contains = true) : ∀ c ∈ s.toList, p c :=
  fun c hc => hp c (List.contains_iff_mem.1 (List.all_eq_true.1 hs c hc))

theorem forall_record (marks : ∀ c ∈ dataMarks, p c) {fields : List (String × Script)}
    (h : ∀ f ∈ fields, (∀ c ∈ f.1.toList, p c) ∧ ∀ c ∈ f.2.render.toList, p c) :
    ∀ c ∈ (Script.record fields).render.toList, p c := by
  cases fields with
  | nil =>
    rw [Script.render]
    exact forall_fixed marks (by decide)
  | cons f fields =>
    have entries : ∀ t ∈ Script.renderFields (f :: fields), ∀ c ∈ t.toList, p c := by
      rw [Script.renderFields_eq_map]
      refine List.forall_mem_map.2 fun e he => ?_
      exact forall_append (forall_append (h e he).1 (forall_fixed marks (by decide))) (h e he).2
    rw [Script.render]
    · refine forall_append (forall_append (forall_fixed marks (by decide)) ?_)
        (forall_fixed marks (by decide))
      exact forall_intercalate (forall_fixed marks (by decide)) entries
    · simp

theorem forall_data (marks : ∀ c ∈ dataMarks, p c)
    (texts : ∀ s : String, ∀ c ∈ (Escape.literal s).toList, p c)
    (numbers : ∀ d : Double, ∀ c ∈ (Numeral.text d).toList, p c)
    (bools : ∀ b : Bool, ∀ c ∈ (Script.boolText b).toList, p c) {keys : List String}
    (names : ∀ key ∈ keys, ∀ c ∈ key.toList, p c) {e : Script} (h : e.IsData keys) :
    ∀ c ∈ e.render.toList, p c := by
  induction h with
  | text s =>
    rw [Script.render]
    exact texts s
  | number d =>
    rw [Script.render]
    exact numbers d
  | bool b =>
    rw [Script.render]
    exact bools b
  | @list items _ ih =>
    have parts : ∀ t ∈ Script.renderItems items, ∀ c ∈ t.toList, p c := by
      rw [Script.renderItems_eq_map]
      exact List.forall_mem_map.2 ih
    rw [Script.render]
    refine forall_append (forall_append (forall_fixed marks (by decide)) ?_)
      (forall_fixed marks (by decide))
    exact forall_intercalate (forall_fixed marks (by decide)) parts
  | record known _ ih =>
    exact forall_record marks fun f hf => ⟨names f.1 (known f hf), ih f hf⟩

end Characters

namespace IsCode

theorem append {s t : String} (hs : IsCode s) (ht : IsCode t) : IsCode (s ++ t) :=
  forall_append hs ht

theorem intercalate {s : String} {parts : List String} (hs : IsCode s)
    (hp : ∀ t ∈ parts, IsCode t) : IsCode (s.intercalate parts) := forall_intercalate hs hp

end IsCode

section Numerals

theorem isCodeChar_of_isDigit {c : Char} (h : c.isDigit = true) : isCodeChar c = true := by
  unfold isCodeChar
  simp only [Bool.and_eq_true, bne_iff_ne]
  refine ⟨⟨?_, ?_⟩, ?_⟩ <;> rintro rfl <;> exact absurd h (by decide)

theorem isCode_numeral (d : Double) : IsCode (Numeral.text d) :=
  Numeral.forall_text (fun _ => isCodeChar_of_isDigit) (List.all_eq_true.1 (by decide)) d

end Numerals

section Literals

def escapeMarks : List Char :=
  ['\\', 'n', 'r', 't', 'u', '0', '1', '2', '3', '4', '5', '6', '7', '8', '9', 'A', 'B', 'C', 'D',
    'E', 'F']

theorem digitChar_mem_escapeMarks : ∀ d < 16, (Nat.digitChar d).toUpper ∈ escapeMarks := by
  decide

theorem toUpper_mem_escapeMarks {n : Nat} {c : Char} (h : c ∈ Text.hexDigits n) :
    c.toUpper ∈ escapeMarks := by
  induction n using Nat.strongRecOn with
  | ind n ih =>
    rw [Text.hexDigits, Nat.toDigits_eq_if (by decide)] at h
    split at h
    · next hn =>
      rw [List.mem_singleton.1 h]
      exact digitChar_mem_escapeMarks n hn
    · next hn =>
      rcases List.mem_append.1 h with h | h
      · exact ih (n / 16) (by omega) h
      · rw [List.mem_singleton.1 h]
        exact digitChar_mem_escapeMarks (n % 16) (Nat.mod_lt n (by decide))

theorem unicodeEscape_subset (n : Nat) : Escape.unicodeEscape n ⊆ escapeMarks := by
  intro c h
  rw [Escape.unicodeEscape] at h
  simp only [List.cons_append, List.mem_cons, List.mem_append, List.mem_map] at h
  rcases h with rfl | rfl | h | ⟨d, hd, rfl⟩
  · decide
  · decide
  · rw [List.eq_of_mem_replicate h]
    decide
  · exact toUpper_mem_escapeMarks hd

theorem mem_scriptChar {c d : Char} (h : d ∈ Escape.scriptChar c) :
    d ∈ escapeMarks ∨ (d ≠ '<' ∧ d ≠ '>') ∧ d ≠ '\n' ∧ d ≠ '\r' := by
  unfold Escape.scriptChar at h
  split at h
  iterate 4
    simp only [List.mem_cons, List.not_mem_nil, or_false] at h
    rcases h with rfl | rfl <;> exact .inl (by decide)
  split at h
  · exact .inl (unicodeEscape_subset _ h)
  · next _ _ lf cr _ hc =>
    rw [List.mem_singleton.1 h]
    simp only [List.mem_cons, not_or] at hc
    exact .inr ⟨⟨hc.1.2.2.2.1, hc.1.2.2.2.2.1⟩, lf, cr⟩

theorem forall_literal {p : Char → Prop} (quote : p '\'') (marks : ∀ c ∈ escapeMarks, p c)
    (plain : ∀ c, (c ≠ '<' ∧ c ≠ '>') ∧ c ≠ '\n' ∧ c ≠ '\r' → p c) (s : String) :
    ∀ c ∈ (Escape.literal s).toList, p c := by
  have quotes : ∀ c ∈ "'".toList, p c := List.forall_mem_singleton.2 quote
  refine forall_append (forall_append quotes fun d hd => ?_) quotes
  rw [Escape.script, Escape.toList_each] at hd
  obtain ⟨c, -, hd⟩ := List.mem_flatMap.1 hd
  exact (mem_scriptChar hd).elim (marks d) (plain d)

theorem isCode_literal (s : String) : IsCode (Escape.literal s) := by
  have escapes := List.all_eq_true (p := isCodeChar).1 (by decide : escapeMarks.all isCodeChar)
  refine forall_literal (p := fun c => isCodeChar c = true) rfl escapes (fun c hc => ?_) s
  simp [isCodeChar, hc.1.1, hc.2.1, hc.2.2]

end Literals

section Handlers

theorem isCode_text (s : String) : IsCode (Script.text s).render := by
  rw [Script.render]
  exact isCode_literal s

theorem isCode_number (d : Double) : IsCode (Script.number d).render := by
  rw [Script.render]
  exact isCode_numeral d

theorem isCode_call {callee : String} {args : List Script} (hc : IsCode callee)
    (ha : ∀ e ∈ args, IsCode e.render) : IsCode (Script.call callee args) := by
  have items : ∀ t ∈ Script.renderItems args, IsCode t := by
    rw [Script.renderItems_eq_map]
    simpa using ha
  exact ((hc.append (by decide)).append (.intercalate (by decide) items)).append (by decide)

theorem isCode_dataMarks : ∀ c ∈ dataMarks, isCodeChar c = true := List.all_eq_true.1 (by decide)

theorem isCode_boolText (b : Bool) : IsCode (Script.boolText b) := by cases b <;> decide

theorem isCode_record {fields : List (String × Script)}
    (h : ∀ f ∈ fields, IsCode f.1 ∧ IsCode f.2.render) : IsCode (Script.record fields).render :=
  forall_record isCode_dataMarks h

theorem isCode_data {keys : List String} (hk : ∀ key ∈ keys, IsCode key) {e : Script}
    (h : e.IsData keys) : IsCode e.render :=
  forall_data isCode_dataMarks isCode_literal isCode_numeral isCode_boolText hk h

theorem isCode_then {first between second : String} (hfirst : IsCode first)
    (hbetween : IsCode between) (hsecond : IsCode second) :
    IsCode (first ++ between ++ second ++ ")") :=
  ((hfirst.append hbetween).append hsecond).append (by decide)

variable {bridge : String} (hb : IsCode bridge)
include hb

theorem isCode_request {function : String} (hf : IsCode function) :
    IsCode (Script.call (bridge ++ function) []) :=
  isCode_call (hb.append hf) (by simp)

theorem isCode_call_one {function : String} {e : Script} (hf : IsCode function)
    (he : IsCode e.render) : IsCode (Script.call (bridge ++ function) [e]) :=
  isCode_call (hb.append hf) (by simpa using he)

theorem isCode_handler {code : String} {action : Action}
    (h : action.handler? bridge = some code) : IsCode code := by
  have toast (e : Script) (he : IsCode e.render) :
      IsCode (Script.call (bridge ++ ".toast") [e]) := isCode_call_one hb (by decide) he
  cases action with (rw [Action.handler?] at h; cases h)
  | toast message duration =>
    refine isCode_call (hb.append (by decide)) ?_
    simpa using ⟨isCode_text message, isCode_number duration⟩
  | pay amount currency description success failure =>
    have request : IsCode (Script.record [("amount", .number amount),
        ("currency", .text currency), ("description", .text description)]).render := by
      refine isCode_record ?_
      simp only [List.forall_mem_cons]
      exact ⟨⟨by decide, isCode_number amount⟩, ⟨by decide, isCode_text currency⟩,
        ⟨by decide, isCode_text description⟩, by simp⟩
    refine isCode_then (((isCode_call_one hb ?_ request).append ?_).append
      (toast _ (isCode_text success))) ?_ (toast _ (isCode_text failure)) <;> decide
  | link url => exact isCode_call_one hb (by decide) (isCode_text url)
  | navigate pageId => exact isCode_call_one hb (by decide) (isCode_text pageId)
  | share title text url =>
    have request : IsCode (Script.record
        ([("title", Script.text title), ("text", Script.text text)] ++
          url.toList.map fun u => ("url", Script.text u))).render := by
      refine isCode_record ?_
      simp only [List.forall_mem_append, List.forall_mem_cons, List.forall_mem_map]
      exact ⟨⟨⟨by decide, isCode_text title⟩, ⟨by decide, isCode_text text⟩, by simp⟩,
        fun u _ => ⟨by decide, isCode_text u⟩⟩
    exact isCode_then (isCode_call_one hb (by decide) request) (by decide) (toast _ (isCode_text _))
  | back => exact isCode_request hb (by decide)
  | copy text =>
    exact isCode_then (isCode_call_one hb (by decide) (isCode_text text)) (by decide)
      (toast _ (isCode_text _))
  | push => exact isCode_then (isCode_request hb (by decide)) (by decide) (toast _ (by decide))
  | user => exact isCode_then (isCode_request hb (by decide)) (by decide) (toast _ (by decide))

end Handlers

end MiniApp

import MiniApp.Proofs.Component.Handler
import MiniApp.Proofs.Jsx.StartTag
import MiniApp.Proofs.Source.Fill

set_option autoImplicit false

namespace MiniApp

namespace Jsx

theorem feed_notMem_of_isCode {code : String} (h : IsCode code) : '\n' ∉ code.toList :=
  fun hm => absurd (h _ hm) (by decide)

theorem isData_styleScript {styles : List (String × Style)} (h : ∀ s ∈ styles, s.1 ∈ styleKeys) :
    (styleScript styles).IsData styleKeys := by
  refine .record (List.forall_mem_map.2 h) (List.forall_mem_map.2 fun s _ => ?_)
  cases s.2 with
  | number d => exact .number d
  | text value => exact .text value

theorem feed_notMem_expr {name code : String} (safe : SafeAttr (name, .expr code)) :
    '\n' ∉ code.toList := by
  cases safe with
  | plain h => exact absurd h Bool.false_ne_true
  | data _ he => exact feed_notMem_of_isCode (isCode_data (by decide) he)
  | count _ n =>
    refine feed_notMem_of_isCode ?_
    exact Numeral.forall_toString (fun _ => isCodeChar_of_isDigit) n
  | styles h => exact feed_notMem_of_isCode (isCode_data (by decide) (isData_styleScript h))
  | handler h =>
    have code := feed_notMem_of_isCode (isCode_handler (by decide) h)
    simp [ProjectRule.onPress, code]

theorem feed_notMem_jsx {value : String} (h : '\n' ∉ value.toList) :
    '\n' ∉ (Escape.jsx value).toList := by
  rw [Escape.jsx, Escape.toList_each, List.mem_flatMap]
  rintro ⟨c, hc, hm⟩
  have feed : c ≠ '\n' := fun eq => h (eq ▸ hc)
  have kept := List.count_pos_iff.2 hm
  rw [count_jsxChar, List.count_singleton] at kept
  simp [feed] at kept

structure UnbrokenAttr (a : String × Attr) : Prop where
  name : '\n' ∉ a.1.toList
  code : ∀ code, a.2 = .expr code → '\n' ∉ code.toList

structure UnbrokenHead (h : Head) : Prop where
  name : '\n' ∉ h.name.toList
  classes : ∀ name ∈ h.classes, '\n' ∉ name.toList
  attrs : ∀ a ∈ h.attrs, UnbrokenAttr a
  styles : ∀ s ∈ h.styles, '\n' ∉ s.1.toList

theorem feed_notMem_of_not_hasBreak {value : String} (h : hasBreak value = false) :
    '\n' ∉ value.toList := by
  intro hm
  rw [hasBreak, List.any_eq_false] at h
  exact h _ hm rfl

theorem SafeAttr.unbroken {a : String × Attr} (safe : SafeAttr a) : UnbrokenAttr a where
  name := feed_notMem_of_all rfl
    (all_isNameChar_propNames a.1 (allowedValue_of_safe safe).mem_propNames).2
  code code written := by
    obtain ⟨name, attr⟩ := a
    cases written
    exact feed_notMem_expr safe

theorem SafeHead.unbroken {h : Head} (safe : SafeHead h) : UnbrokenHead h where
  name := feed_notMem_of_all rfl (all_isNameChar_tagNames h.name safe.name).2
  classes name hn := feed_notMem_of_not_hasBreak (safe.classes name hn)
  attrs a ha := (safe.attrs a ha).unbroken
  styles s hs := feed_notMem_of_all rfl (all_isNameChar_styleKeys s.1 (safe.styles s hs))

theorem feed_notMem_propText {a : String × Attr} (unbroken : UnbrokenAttr a) :
    '\n' ∉ (propText a).toList := by
  have name := unbroken.name
  obtain ⟨name, value | _ | code⟩ := a
  · cases breaks : hasBreak value with
    | true =>
      have literal := feed_notMem_of_isCode (isCode_literal value)
      rw [propText_of_hasBreak breaks]
      simp [braced, name, literal]
    | false =>
      rw [propText_of_not_hasBreak breaks]
      simp [name, feed_notMem_jsx (feed_notMem_of_not_hasBreak breaks)]
  · simp [propText, name]
  · simp [propText, braced, name, unbroken.code code rfl]

theorem feed_notMem_intercalate {separator : String} {parts : List String}
    (hs : '\n' ∉ separator.toList) (hp : ∀ part ∈ parts, '\n' ∉ part.toList) :
    '\n' ∉ (separator.intercalate parts).toList := by
  intro hm
  refine forall_intercalate (p := (· ≠ '\n')) (fun c hc => ?_) (fun part ht c hc => ?_) _ hm rfl
  · exact ne_of_mem_of_not_mem hc hs
  · exact ne_of_mem_of_not_mem hc (hp part ht)

theorem feed_notMem_classText {classes : List String} (h : ∀ name ∈ classes, '\n' ∉ name.toList) :
    '\n' ∉ (classText classes).toList := by
  have joined : '\n' ∉ (" ".intercalate classes).toList := feed_notMem_intercalate (by decide) h
  rw [classText]
  split
  · decide
  · simp [feed_notMem_jsx joined]

theorem feed_notMem_style (style : Style) : '\n' ∉ style.render.toList := by
  cases style with
  | number d => exact feed_notMem_of_isCode (isCode_numeral d)
  | text value => exact feed_notMem_of_isCode (isCode_literal value)

theorem feed_notMem_styleText {styles : List (String × Style)}
    (h : ∀ s ∈ styles, '\n' ∉ s.1.toList) : '\n' ∉ (styleText styles).toList := by
  have joined :
      '\n' ∉ (", ".intercalate (styles.map fun s => s.1 ++ ": " ++ s.2.render)).toList := by
    refine feed_notMem_intercalate (by decide) (List.forall_mem_map.2 fun s hs => ?_)
    simp [h s hs, feed_notMem_style s.2]
  rw [styleText]
  split
  · decide
  · simp [braced, joined, -String.toList_intercalate]

theorem feed_notMem_opening {h : Head} (unbroken : UnbrokenHead h) :
    '\n' ∉ (opening h).toList := by
  have props := feed_notMem_join fun a ha => feed_notMem_propText (unbroken.attrs a ha)
  simp only [opening, String.toList_append, List.mem_append, not_or]
  exact ⟨⟨⟨⟨by decide, unbroken.name⟩, feed_notMem_classText unbroken.classes⟩, props⟩,
    feed_notMem_styleText unbroken.styles⟩

theorem onOneLine_unbroken : dialect.OnOneLine UnbrokenHead where
  opening := feed_notMem_opening
  childless {h} unbroken := by
    have opened := feed_notMem_opening unbroken
    change '\n' ∉ (childless h).toList ∧ ∃ tag, childless h = tag ++ ">"
    rw [childless]
    have split : opening h ++ " />" = opening h ++ " /" ++ ">" := by
      rw [String.append_assoc]
      rfl
    exact ⟨by simp [opened], _, split⟩
  closing unbroken := feed_notMem_closing unbroken.name
  text s := by
    change '\n' ∉ (text s).toList
    rw [text, String.toList_ofList]
    exact feed_notMem_shown (by decide) _

theorem onOneLine : dialect.OnOneLine SafeHead := onOneLine_unbroken.mono SafeHead.unbroken

end Jsx

end MiniApp

import MiniApp.Proofs.Markup.StartTag
import MiniApp.Proofs.Source.Fill

set_option autoImplicit false

namespace MiniApp.Markup

theorem feed_notMem_markupChar {c : Char} (h : c ≠ '\n') : '\n' ∉ Escape.markupChar c := by
  unfold Escape.markupChar
  split
  iterate 5 decide
  exact fun hm => h (List.mem_singleton.1 hm).symm

theorem feed_notMem_attributeChar (c : Char) : '\n' ∉ Escape.attributeChar c := by
  unfold Escape.attributeChar
  split
  iterate 3 decide
  · next feed _ _ => exact feed_notMem_markupChar feed

theorem feed_notMem_attributeValue (s : String) : '\n' ∉ (Escape.attributeValue s).toList := by
  rw [Escape.attributeValue, Escape.toList_each, List.mem_flatMap]
  rintro ⟨c, -, h⟩
  exact feed_notMem_attributeChar c h

theorem feed_notMem_code {code : String} (h : '\n' ∉ code.toList) :
    '\n' ∉ (Escape.each codeChar code).toList := by
  rw [Escape.toList_each, List.mem_flatMap]
  rintro ⟨c, hc, hm⟩
  unfold codeChar at hm
  split at hm
  iterate 2 exact absurd hm (by decide)
  · exact h (List.mem_singleton.1 hm ▸ hc)

structure UnbrokenAttr (a : String × Attr) : Prop where
  name : '\n' ∉ a.1.toList
  code : ∀ code, a.2 = .script code → '\n' ∉ code.toList

structure UnbrokenHead (h : Head) : Prop where
  name : '\n' ∉ h.name.toList
  attrs : ∀ a ∈ h.attrs, UnbrokenAttr a

theorem SafeAttr.unbroken {a : String × Attr} (safe : SafeAttr a) : UnbrokenAttr a where
  name := feed_notMem_of_all rfl (all_isNameChar_attrNames a.1 (allowedAttr_of_safe safe).1).2
  code code written hm := by
    obtain ⟨name, attr⟩ := a
    cases written
    exact absurd (safe.isCode _ hm) (by decide)

theorem SafeHead.unbroken {h : Head} (safe : SafeHead h) : UnbrokenHead h where
  name := feed_notMem_of_all rfl safe.legible.name.2
  attrs a ha := (safe.attrs a ha).unbroken

theorem feed_notMem_attrText {a : String × Attr} (unbroken : UnbrokenAttr a) :
    '\n' ∉ (attrText a).toList := by
  have name := unbroken.name
  obtain ⟨name, value | _ | code⟩ := a
  · simp [attrText, name, feed_notMem_attributeValue]
  · simp [attrText, name]
  · simp [attrText, name, feed_notMem_code (unbroken.code code rfl)]

theorem feed_notMem_classText (classes : List String) : '\n' ∉ (classText classes).toList := by
  rw [classText]
  split <;> simp [feed_notMem_attributeValue]

theorem feed_notMem_styleText (styles : List (String × String)) :
    '\n' ∉ (styleText styles).toList := by
  rw [styleText]
  split <;> simp [feed_notMem_attributeValue]

theorem feed_notMem_opening {h : Head} (unbroken : UnbrokenHead h) :
    '\n' ∉ (opening h).toList := by
  have attrs := feed_notMem_join fun a ha => feed_notMem_attrText (unbroken.attrs a ha)
  simp only [opening, String.toList_append, List.mem_append, not_or]
  exact ⟨⟨⟨⟨by decide, unbroken.name⟩, feed_notMem_classText _⟩, attrs⟩, feed_notMem_styleText _⟩

theorem onOneLine_unbroken : dialect.OnOneLine UnbrokenHead where
  opening := feed_notMem_opening
  childless {h} unbroken := by
    have opened := feed_notMem_opening unbroken
    have closed := feed_notMem_closing unbroken.name
    change '\n' ∉ (childless h).toList ∧ ∃ tag, childless h = tag ++ ">"
    rw [childless]
    split
    · exact ⟨by simp [opened], _, rfl⟩
    · exact ⟨by simp [opened, closed], opening h ++ ">" ++ ("</" ++ h.name), String.append_assoc.symm⟩
  closing unbroken := feed_notMem_closing unbroken.name
  text s := by
    change '\n' ∉ (text s).toList
    rw [text, String.toList_ofList]
    exact feed_notMem_shown (by decide) _

theorem onOneLine : dialect.OnOneLine SafeHead := onOneLine_unbroken.mono SafeHead.unbroken

end MiniApp.Markup

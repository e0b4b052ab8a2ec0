import MiniApp.Proofs.Markup.Safety
import MiniApp.Proofs.Text.Opens

set_option autoImplicit false

namespace MiniApp.Markup

open Scanner (scan_cons_inv)
open Text (Opens Unbroken opens_of_notMem)

/-- What stands behind the brackets of tags with the given names. -/
def wordsOf (names : List String) : List (List Char) :=
  names.flatMap fun name => [name.toList, '/' :: name.toList]

theorem mem_wordsOf {names : List String} {name : String} (h : name ∈ names) :
    name.toList ∈ wordsOf names ∧ '/' :: name.toList ∈ wordsOf names :=
  ⟨List.mem_flatMap.2 ⟨name, h, by simp⟩, List.mem_flatMap.2 ⟨name, h, by simp⟩⟩

section Reader

def Mode.tagName? : Mode → Option String
  | .attrName tag _ | .valueStart tag _ | .value tag _ _ | .valueReference tag _ _ _
  | .valueEnd tag => some tag.name
  | _ => none

theorem step_inTag {m m' : Mode} {c : Char} {out : List Tag} {name : String}
    (hm : m.tagName? = some name) (h : step m c = some (m', out)) :
    m'.tagName? = some name ∧ out = [] ∨ ∃ attrs, out = [.opening name attrs] := by
  cases m with
  | attrName tag n =>
    cases hm
    simp only [step] at h
    split_ifs at h <;> cases h <;> simp [Mode.tagName?, StartTag.add, StartTag.tag]
  | valueStart tag n =>
    cases hm
    simp only [step] at h
    split_ifs at h
    cases h
    simp [Mode.tagName?]
  | value tag n v =>
    cases hm
    simp only [step] at h
    split_ifs at h <;> cases h <;> simp [Mode.tagName?, StartTag.add]
  | valueReference tag n v letters =>
    cases hm
    simp only [step] at h
    split_ifs at h
    · obtain ⟨r, -, hr⟩ := Option.map_eq_some_iff.1 h
      cases hr
      simp [Mode.tagName?]
    · cases h
      simp [Mode.tagName?]
  | valueEnd tag =>
    cases hm
    simp only [step] at h
    split_ifs at h <;> cases h <;> simp [Mode.tagName?, StartTag.tag]
  | text | textReference | tagStart | closingName | tagName => cases hm

theorem scan_inTag {m : Mode} {cs : List Char} {tags : List Tag} {name : String}
    (hm : m.tagName? = some name) (h : Scanner.scan step m cs = some (.text, tags)) :
    ∃ attrs rest, tags = .opening name attrs :: rest := by
  induction cs generalizing m tags with
  | nil =>
    cases h
    cases hm
  | cons c cs ih =>
    obtain ⟨m', out, rest, hstep, hs, rfl⟩ := scan_cons_inv h
    rcases step_inTag hm hstep with ⟨hm', rfl⟩ | ⟨attrs, rfl⟩
    · exact ih hm' hs
    · exact ⟨attrs, rest, rfl⟩

theorem scan_tagName_inv {name cs : List Char} {tags : List Tag}
    (h : Scanner.scan step (.tagName name) cs = some (.text, tags)) :
    ∃ more attrs rest, more <+: cs ∧ tags = .opening (String.ofList (name ++ more)) attrs :: rest := by
  induction cs generalizing name tags with
  | nil => cases h
  | cons c cs ih =>
    obtain ⟨m', out, rest, hstep, hs, rfl⟩ := scan_cons_inv h
    simp only [step] at hstep
    split_ifs at hstep
    · cases hstep
      obtain ⟨more, attrs, rest, hp, rfl⟩ := ih hs
      exact ⟨c :: more, attrs, rest, List.cons_prefix_cons.2 ⟨rfl, hp⟩, by simp⟩
    · cases hstep
      obtain ⟨attrs, rest, rfl⟩ := scan_inTag rfl hs
      exact ⟨[], attrs, rest, List.nil_prefix, by simp⟩
    · cases hstep
      exact ⟨[], [], rest, List.nil_prefix, by simp⟩

theorem scan_closingName_inv {name cs : List Char} {tags : List Tag}
    (h : Scanner.scan step (.closingName name) cs = some (.text, tags)) :
    ∃ more rest, more <+: cs ∧ tags = .closing (String.ofList (name ++ more)) :: rest := by
  induction cs generalizing name tags with
  | nil => cases h
  | cons c cs ih =>
    obtain ⟨m', out, rest, hstep, hs, rfl⟩ := scan_cons_inv h
    simp only [step] at hstep
    split_ifs at hstep
    · cases hstep
      obtain ⟨more, rest, hp, rfl⟩ := ih hs
      exact ⟨c :: more, rest, List.cons_prefix_cons.2 ⟨rfl, hp⟩, by simp⟩
    · cases hstep
      exact ⟨[], rest, List.nil_prefix, by simp⟩

theorem scan_tagStart_inv {cs : List Char} {tags : List Tag}
    (h : Scanner.scan step .tagStart cs = some (.text, tags)) :
    (∃ name attrs rest, name.toList <+: cs ∧ tags = .opening name attrs :: rest) ∨
      ∃ name rest, '/' :: name.toList <+: cs ∧ tags = .closing name :: rest := by
  cases cs with
  | nil => cases h
  | cons c cs =>
    obtain ⟨m', out, rest, hstep, hs, rfl⟩ := scan_cons_inv h
    simp only [step] at hstep
    split_ifs at hstep with hslash
    · cases hstep
      obtain ⟨more, rest, hp, rfl⟩ := scan_closingName_inv hs
      exact .inr ⟨_, rest, by simpa [hslash] using hp, rfl⟩
    · cases hstep
      obtain ⟨more, attrs, rest, hp, rfl⟩ := scan_tagName_inv hs
      exact .inl ⟨_, attrs, rest, by simpa using hp, rfl⟩

theorem step_bracket {m m' : Mode} {out : List Tag} (h : step m '<' = some (m', out)) :
    m = .text ∧ m' = .tagStart ∧ out = [] := by
  cases m <;> simp [step, isNameChar, isReferenceChar] at h
  exact ⟨rfl, h.1.symm, h.2⟩

/-- Brackets open the tags that are read. -/
theorem opens_of_scan {m : Mode} {cs : List Char} {tags : List Tag}
    (h : Scanner.scan step m cs = some (.text, tags)) (allowed : ∀ tag ∈ tags, tag.Allowed) :
    Opens (wordsOf tagNames) cs := by
  induction cs generalizing m tags with
  | nil => exact .nil
  | cons c cs ih =>
    obtain ⟨m', out, rest, hstep, hs, rfl⟩ := scan_cons_inv h
    refine .cons ?_ (ih hs fun tag ht => allowed tag (List.mem_append_right _ ht))
    rintro rfl
    obtain ⟨rfl, rfl, rfl⟩ := step_bracket hstep
    rcases scan_tagStart_inv hs with ⟨name, attrs, rest, hp, rfl⟩ | ⟨name, rest, hp, rfl⟩
    · have known := (allowed _ List.mem_cons_self).1
      exact ⟨_, (mem_wordsOf known).1, hp⟩
    · have known := List.mem_append_left voidNames (allowed _ List.mem_cons_self)
      exact ⟨_, (mem_wordsOf known).2, hp⟩

theorem Accepted.opens {fragment : String} (h : Accepted fragment) :
    Opens (wordsOf tagNames) fragment.toList := by
  obtain ⟨tags, hread, wellFormed⟩ := h
  exact opens_of_scan (read?_eq_some_iff.1 hread) wellFormed.allowed

end Reader

section Layout

def bodyNames : List String := "main" :: tagNames

def bodyWords : List (List Char) := wordsOf bodyNames

theorem unbroken_bodyWords : Unbroken bodyWords := by
  rw [Unbroken]
  decide

theorem wordsOf_tagNames_subset : ∀ w ∈ wordsOf tagNames, w ∈ bodyWords := by
  intro w hw
  obtain ⟨name, hn, hw⟩ := List.mem_flatMap.1 hw
  exact List.mem_flatMap.2 ⟨name, List.mem_cons_of_mem _ hn, hw⟩

theorem opens_of_accepted {fragment : String} (h : Accepted fragment) :
    Opens bodyWords fragment.toList :=
  h.opens.mono wordsOf_tagNames_subset

structure BodyHead (h : Head) : Prop where
  name : h.name ∈ bodyNames
  attrs : ∀ a ∈ h.attrs, '<' ∉ a.1.toList ∧ ∃ value, a.2 = .text value

/-- Brackets stand in the tags of the elements, and in the fragments, where they open tags too. -/
abbrev BodyTree (t : Markup.Tree) : Prop := t.All BodyHead fun f => Opens bodyWords f.toList

theorem notMem_markupChar (c : Char) : '<' ∉ Escape.markupChar c := by
  unfold Escape.markupChar
  split
  iterate 5 decide
  · next _ _ bracket _ _ _ => simpa using Ne.symm bracket

theorem notMem_attributeChar (c : Char) : '<' ∉ Escape.attributeChar c := by
  unfold Escape.attributeChar
  split
  iterate 3 decide
  · exact notMem_markupChar c

theorem notMem_markup (s : String) : '<' ∉ (Escape.markup s).toList := by
  rw [Escape.markup, Escape.toList_each, List.mem_flatMap]
  rintro ⟨c, -, h⟩
  exact notMem_markupChar c h

theorem notMem_attributeValue (s : String) : '<' ∉ (Escape.attributeValue s).toList := by
  rw [Escape.attributeValue, Escape.toList_each, List.mem_flatMap]
  rintro ⟨c, -, h⟩
  exact notMem_attributeChar c h

theorem notMem_classText (classes : List String) : '<' ∉ (classText classes).toList := by
  rw [classText]
  split
  · simp
  · simp [notMem_attributeValue]

theorem notMem_styleText (styles : List (String × String)) : '<' ∉ (styleText styles).toList := by
  rw [styleText]
  split
  · simp
  · simp [notMem_attributeValue]

theorem notMem_attrTexts {attrs : List (String × Attr)}
    (h : ∀ a ∈ attrs, '<' ∉ a.1.toList ∧ ∃ value, a.2 = .text value) :
    '<' ∉ (String.join (attrs.map attrText)).toList := by
  rw [String.toList_join, List.mem_flatMap]
  rintro ⟨text, ht, hc⟩
  obtain ⟨⟨name, attr⟩, ha, rfl⟩ := List.mem_map.1 ht
  obtain ⟨hname, value, rfl⟩ := h _ ha
  simp [attrText, notMem_attributeValue, hname] at hc

theorem opens_word {name : String} (h : name ∈ bodyNames) {rest : List Char} (hr : '<' ∉ rest) :
    Opens bodyWords ('<' :: (name.toList ++ rest)) ∧
      Opens bodyWords ('<' :: '/' :: (name.toList ++ rest)) := by
  have plain : ∀ name ∈ bodyNames, '<' ∉ name.toList := by decide
  have behind : Opens bodyWords (name.toList ++ rest) :=
    (opens_of_notMem (plain name h)).append (opens_of_notMem hr)
  have known := mem_wordsOf h
  exact ⟨.cons (fun _ => ⟨_, known.1, List.prefix_append ..⟩) behind,
    .cons (fun _ => ⟨_, known.2, List.prefix_append ..⟩)
      (.cons (fun hc => absurd hc (by decide)) behind)⟩

theorem opens_opening {h : Head} (body : BodyHead h) : Opens bodyWords (opening h).toList := by
  have rest : '<' ∉ (classText h.classes).toList ++
      (String.join (h.attrs.map attrText)).toList ++ (styleText h.styles).toList := by
    simp only [List.mem_append, not_or]
    exact ⟨⟨notMem_classText _, notMem_attrTexts body.attrs⟩, notMem_styleText _⟩
  have written : (opening h).toList = '<' :: (h.name.toList ++
      ((classText h.classes).toList ++ (String.join (h.attrs.map attrText)).toList ++
        (styleText h.styles).toList)) := by
    simp [opening]
  rw [written]
  exact (opens_word body.name rest).1

theorem opens_closing {h : Head} (body : BodyHead h) :
    Opens bodyWords (Tree.closing h).toList := by
  have written : (Tree.closing h).toList = '<' :: '/' :: (h.name.toList ++ ['>']) := by
    simp [Tree.closing]
  rw [written]
  exact (opens_word body.name (by decide)).2

theorem opens_text (s : String) : Opens bodyWords (text s).toList := by
  have breaks : Opens (wordsOf tagNames) (text s).toList :=
    opens_of_scan (scan_text s) (wellFormed_words s).allowed
  exact breaks.mono wordsOf_tagNames_subset

theorem opens_lines_tree {t : Markup.Tree} (body : BodyTree t) (level : Nat) :
    ∀ line ∈ Tree.lines dialect level t, Opens bodyWords line.toList := by
  have bracket : Opens bodyWords ">".toList := opens_of_notMem (by decide)
  induction body generalizing level with
  | text value => exact List.forall_mem_singleton.2 (opens_indented (opens_text value) level)
  | raw h => exact opens_blockLines unbroken_bodyWords h level
  | @element head children heads _ ih =>
    have opened : Opens bodyWords (opening head ++ ">").toList := by
      rw [String.toList_append]
      exact (opens_opening heads).append bracket
    have closed := opens_closing heads
    have alone : Opens bodyWords (childless head).toList := by
      rw [childless]
      split
      · exact opened
      · rw [String.toList_append]
        exact opened.append closed
    cases hv : head.isVoid with
    | true =>
      rw [Tree.lines_of_isVoid dialect level hv]
      exact List.forall_mem_singleton.2 (opens_indented alone level)
    | false =>
      by_cases hc : children = []
      · subst hc
        rw [Tree.lines_nil]
        exact List.forall_mem_singleton.2 (opens_indented alone level)
      by_cases ht : ∃ s, children = [.text s]
      · obtain ⟨s, rfl⟩ := ht
        rw [Tree.lines_text dialect level hv]
        refine List.forall_mem_singleton.2 (opens_indented ?_ level)
        rw [String.toList_append, String.toList_append]
        exact (opened.append (opens_text s)).append closed
      · rw [Tree.lines_block dialect level hv hc (not_exists.1 ht), Tree.linesOfAll_eq_flatMap]
        refine List.forall_mem_cons.2 ⟨opens_indented opened level, ?_⟩
        rw [List.forall_mem_append, List.forall_mem_singleton, List.forall_mem_flatMap]
        exact ⟨fun t ht => ih t ht (level + 1), opens_indented closed level⟩

theorem opens_render {t : Markup.Tree} (body : BodyTree t) : Opens bodyWords (render t).toList :=
  opens_finishLines unbroken_bodyWords (opens_lines_tree body 0)

end Layout

end MiniApp.Markup

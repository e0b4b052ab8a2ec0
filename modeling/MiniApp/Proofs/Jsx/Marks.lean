import Mathlib.Data.Bool.AllAny
import Mathlib.Data.List.Chain
import MiniApp.Project.App
import MiniApp.Proofs.Component.Handler
import MiniApp.Proofs.Jsx.StartTag
import MiniApp.Proofs.Source.Search

set_option autoImplicit false

namespace MiniApp

def Bare (s : String) : Prop := ∀ c ∈ s.toList, c ≠ '<' ∧ c ≠ '>'

instance (s : String) : Decidable (Bare s) := decidable_of_iff _ List.all_iff_forall_prop

/-- The name of a tag or a prop: no part of it can be taken for the arrow of a handler. -/
def IsWord (s : String) : Prop := Bare s ∧ s.toList ≠ [] ∧ s.toList.getLast? ≠ some '='

instance (s : String) : Decidable (IsWord s) := inferInstanceAs (Decidable (_ ∧ _))

section Bare

theorem Bare.append {s t : String} (hs : Bare s) (ht : Bare t) : Bare (s ++ t) :=
  forall_append hs ht

theorem bare_numeral (d : Double) : Bare (Numeral.text d) := by
  refine Numeral.forall_text (fun c hc => ?_) (List.all_iff_forall_prop.1 (by decide)) d
  constructor <;> rintro rfl <;> exact absurd hc (by decide)

theorem bare_count (n : Nat) : Bare (toString n) := by
  refine Numeral.forall_toString (fun c hc => ?_) n
  constructor <;> rintro rfl <;> exact absurd hc (by decide)

theorem bare_literal (s : String) : Bare (Escape.literal s) :=
  forall_literal (by decide) (List.all_iff_forall_prop.1 (by decide)) (fun _ hc => hc.1) s

theorem notAngle_of_mem_jsxChar {c d : Char} (h : d ∈ Escape.jsxChar c) : d ≠ '<' ∧ d ≠ '>' := by
  have of_all {cs : List Char} (all : cs.all fun d => d ≠ '<' ∧ d ≠ '>') (hd : d ∈ cs) :
      d ≠ '<' ∧ d ≠ '>' := List.all_iff_forall_prop.1 all d hd
  unfold Escape.jsxChar at h
  split at h
  iterate 2 exact of_all (by decide) h
  · unfold Escape.markupChar at h
    split at h
    iterate 5 exact of_all (by decide) h
    · next _ _ lt gt _ _ =>
      rw [List.mem_singleton.1 h]
      exact ⟨lt, gt⟩

theorem bare_jsx (s : String) : Bare (Escape.jsx s) := by
  intro d hd
  rw [Escape.jsx, Escape.toList_each] at hd
  obtain ⟨c, -, hd⟩ := List.mem_flatMap.1 hd
  exact notAngle_of_mem_jsxChar hd

theorem bare_dataMarks : ∀ c ∈ dataMarks, c ≠ '<' ∧ c ≠ '>' :=
  List.all_iff_forall_prop.1 (by decide)

theorem bare_boolText (b : Bool) : Bare (Script.boolText b) := by cases b <;> decide

theorem bare_record {fields : List (String × Script)}
    (h : ∀ f ∈ fields, Bare f.1 ∧ Bare f.2.render) : Bare (Script.record fields).render :=
  forall_record bare_dataMarks h

theorem bare_data {keys : List String} (hk : ∀ key ∈ keys, Bare key) {e : Script}
    (h : e.IsData keys) : Bare e.render :=
  forall_data bare_dataMarks bare_literal bare_numeral bare_boolText hk h

end Bare

namespace Jsx

section Names

theorem notMark_of_isNameChar {c : Char} (h : isNameChar c = true) :
    (c ≠ '<' ∧ c ≠ '>') ∧ c ≠ '=' ∧ c ≠ ' ' := by
  refine ⟨⟨?_, ?_⟩, ?_, ?_⟩ <;>
    · rintro rfl
      exact absurd h (by decide)

variable {name : String}

theorem bare_name (h : name.toList.all isNameChar = true) : Bare name :=
  fun c hc => (notMark_of_isNameChar (List.all_eq_true.1 h c hc)).1

theorem isWord_name (h : name.toList ≠ [] ∧ name.toList.all isNameChar = true) : IsWord name where
  left := bare_name h.2
  right := by
    refine ⟨h.1, fun ends => ?_⟩
    have last := List.all_eq_true.1 h.2 _ (List.mem_of_getLast? ends)
    exact (notMark_of_isNameChar last).2.1 rfl

theorem blank_notMem_name (h : name.toList.all isNameChar = true) : ' ' ∉ name.toList :=
  fun blank => (notMark_of_isNameChar (List.all_eq_true.1 h _ blank)).2.2 rfl

end Names

section Props

theorem bare_styleScript {styles : List (String × Style)} (h : ∀ s ∈ styles, s.1 ∈ styleKeys) :
    Bare (styleScript styles).render := by
  refine bare_record (List.forall_mem_map.2 fun s hs =>
    ⟨bare_name (all_isNameChar_styleKeys s.1 (h s hs)), ?_⟩)
  cases s.2 with
  | number d => rw [Style.script, Script.render]; exact bare_numeral d
  | text value => rw [Style.script, Script.render]; exact bare_literal value

theorem bare_braced {code : String} (h : Bare code) : Bare (braced code) :=
  (Bare.append (by decide) h).append (by decide)

variable {a : String × Attr} (safe : SafeAttr a)
include safe

theorem isWord_propName : IsWord a.1 :=
  isWord_name (all_isNameChar_propNames a.1 (allowedValue_of_safe safe).mem_propNames)

theorem bare_propText (other : a.1 ≠ "onClick") : Bare (propText a) := by
  have named : Bare (" " ++ a.1) := Bare.append (by decide) (isWord_propName safe).1
  have valued {s : String} (hs : Bare s) : Bare (" " ++ a.1 ++ "=" ++ s) :=
    (named.append (by decide)).append hs
  obtain ⟨name, value | _ | code⟩ := a
  · cases breaks : hasBreak value with
    | true =>
      rw [propText_of_hasBreak breaks]
      exact valued (bare_braced (bare_literal value))
    | false =>
      rw [propText_of_not_hasBreak breaks]
      exact ((named.append (by decide)).append (bare_jsx value)).append (by decide)
  · exact named
  · refine valued (bare_braced ?_)
    cases safe with
    | plain h => exact absurd h Bool.false_ne_true
    | data _ he => exact bare_data (by decide) he
    | count _ n => exact bare_count n
    | styles h => exact bare_styleScript h
    | handler => exact absurd rfl other

theorem eq_handler (press : a.1 = "onClick") : ∃ action code,
    Action.handler? ProjectRule.bridge action = some code ∧
      a = ("onClick", .expr (ProjectRule.onPress code)) := by
  have own : ¬ "onClick" ∈ plainNames := by decide
  have apart : "style" ≠ "onClick" := by decide
  cases safe with
  | plain h => exact absurd (press ▸ mem_plainNames_of_isPlain h) own
  | data h | count h => exact absurd (press ▸ h) own
  | styles => exact absurd press apart
  | handler h => exact ⟨_, _, h, rfl⟩

theorem notMem_propText : '<' ∉ (propText a).toList := by
  by_cases press : a.1 = "onClick"
  · obtain ⟨action, code, handles, rfl⟩ := eq_handler safe press
    have own : ∀ c ∈ code.toList, c ≠ '<' := by
      rintro c hc rfl
      exact absurd (isCode_handler (by decide) handles '<' hc) (by decide)
    have fixed {s : String} (all : s.toList.all fun c => c ≠ '<') : ∀ c ∈ s.toList, c ≠ '<' :=
      List.all_iff_forall_prop.1 all
    have arrow : ∀ c ∈ (braced (ProjectRule.onPress code)).toList, c ≠ '<' :=
      forall_append (forall_append (fixed (by decide)) (forall_append (fixed (by decide)) own))
        (fixed (by decide))
    have all : ∀ c ∈ (propText ("onClick", .expr (ProjectRule.onPress code))).toList, c ≠ '<' :=
      forall_append (fixed (by decide)) arrow
    exact fun h => all '<' h rfl
  · exact fun h => (bare_propText safe press _ h).1 rfl

theorem getLast?_propText : (propText a).toList.getLast? ≠ some '=' := by
  have ends {s t : String} (ht : t.toList.getLast? ≠ some '=') (ne : t.toList ≠ []) :
      (s ++ t).toList.getLast? ≠ some '=' := by
    rwa [String.toList_append, List.getLast?_append_of_ne_nil _ ne]
  have braces (s code : String) : (s ++ braced code).toList.getLast? ≠ some '=' := by
    rw [braced, ← String.append_assoc]
    exact ends (by decide) (by decide)
  obtain ⟨name, value | _ | code⟩ := a
  · cases breaks : hasBreak value with
    | true =>
      rw [propText_of_hasBreak breaks]
      exact braces _ _
    | false =>
      rw [propText_of_not_hasBreak breaks]
      exact ends (by decide) (by decide)
  · have word := isWord_propName safe
    exact ends word.2.2 word.2.1
  · exact braces _ _

omit safe in
theorem propText_blank (a : String × Attr) : ∃ rest, (propText a).toList = ' ' :: rest := by
  obtain ⟨name, value | _ | code⟩ := a
  · cases breaks : hasBreak value with
    | true =>
      rw [propText_of_hasBreak breaks]
      exact ⟨_, by simp only [String.toList_append]; rfl⟩
    | false =>
      rw [propText_of_not_hasBreak breaks]
      exact ⟨_, by simp only [String.toList_append]; rfl⟩
  · exact ⟨_, by simp only [propText, String.toList_append]; rfl⟩
  · exact ⟨_, by simp only [propText, String.toList_append]; rfl⟩

end Props

section Calm

/-- No arrow stands here, and no bracket but those of end tags and line breaks. -/
def Quiet (a b : Char) : Prop := (a = '=' → b ≠ '>') ∧ (a = '<' → b = 'b' ∨ b = '/')

instance (a b : Char) : Decidable (Quiet a b) := inferInstanceAs (Decidable (_ ∧ _))

/-- Text in which nothing is found that an import goes by, also at the joints with other such
text. -/
structure Calm (cs : List Char) : Prop where
  quiet : cs.IsChain Quiet
  first : cs.head? ≠ some '>'
  last : cs.getLast? ≠ some '<'

instance (cs : List Char) : Decidable (Calm cs) :=
  decidable_of_iff (cs.IsChain Quiet ∧ cs.head? ≠ some '>' ∧ cs.getLast? ≠ some '<')
    ⟨fun h => ⟨h.1, h.2.1, h.2.2⟩, fun h => ⟨h.quiet, h.first, h.last⟩⟩

theorem Calm.append {as bs : List Char} (ha : Calm as) (hb : Calm bs) : Calm (as ++ bs) where
  quiet := by
    refine List.isChain_append.2 ⟨ha.quiet, hb.quiet, fun x hx y hy => ⟨fun _ => ?_, ?_⟩⟩
    · rintro rfl
      exact hb.first hy
    · rintro rfl
      exact absurd hx ha.last
  first := by
    rw [List.head?_append]
    cases as with
    | nil => exact hb.first
    | cons a as => exact ha.first
  last := by
    intro ends
    rw [List.getLast?_append, Option.or_eq_some_iff] at ends
    rcases ends with ends | ⟨-, ends⟩
    · exact hb.last ends
    · exact ha.last ends

theorem calm_flatMap {α : Type} {f : α → List Char} {xs : List α} (h : ∀ x ∈ xs, Calm (f x)) :
    Calm (xs.flatMap f) := by
  induction xs with
  | nil => exact (by decide : Calm [])
  | cons x xs ih =>
    rw [List.forall_mem_cons] at h
    exact h.1.append (ih h.2)

theorem calm_of_bare {cs : List Char} (h : ∀ c ∈ cs, c ≠ '<' ∧ c ≠ '>') : Calm cs where
  quiet := List.Pairwise.isChain (List.pairwise_of_forall_mem_list fun a ha b hb =>
    ⟨fun _ => (h b hb).2, fun opens => absurd opens (h a ha).1⟩)
  first starts := (h _ (List.mem_of_mem_head? starts)).2 rfl
  last ends := (h _ (List.mem_of_mem_getLast? ends)).1 rfl

theorem calm_closed {cs : List Char} (h : ∀ c ∈ cs, c ≠ '<' ∧ c ≠ '>') (ne : cs ≠ [])
    (ends : cs.getLast? ≠ some '=') : Calm (cs ++ ['>']) where
  quiet := by
    refine List.isChain_append.2 ⟨(calm_of_bare h).quiet, .singleton _, fun x hx y hy => ?_⟩
    refine ⟨?_, fun opens => absurd opens (h x (List.mem_of_mem_getLast? hx)).1⟩
    rintro rfl
    exact absurd hx ends
  first := by
    rw [List.head?_append_of_ne_nil _ ne]
    exact (calm_of_bare h).first
  last := by simp

theorem Calm.not_found {needle cs : List Char} (h : Calm cs) (loud : ¬ needle.IsChain Quiet) :
    ¬ needle <:+: cs := by
  intro found
  have part := List.IsChain.infix h.quiet found
  exact loud part

theorem calm_text (s : String) : Calm (text s).toList := by
  rw [text, String.toList_ofList]
  refine calm_flatMap fun c hc => ?_
  have bare := bare_jsx s c ((Text.joinBreaks_sublist _).subset hc)
  rw [Escape.showBreak]
  split
  · decide
  · exact calm_of_bare (List.forall_mem_singleton.2 bare)

theorem calm_closing {h : Head} (safe : SafeHead h) : Calm (Tree.closing h).toList := by
  obtain ⟨bare, shows, ends⟩ := isWord_name (all_isNameChar_tagNames h.name safe.name)
  have opening : Calm ['<', '/'] := by decide
  rw [Tree.closing, String.toList_append, String.toList_append, List.append_assoc]
  exact opening.append (calm_closed bare shows ends)

end Calm

section Tags

def tagText (h : Head) : String := h.name ++ String.join ((attributes h).map propText)

def Ends (rest : List Char) : Prop :=
  rest = " />".toList ∨ ∃ cs, rest = '>' :: cs ∧ Calm cs

def Presses (h : Head) : Prop := ∃ a ∈ h.attrs, a.1 = "onClick"

theorem forall_tagText {h : Head} {p : Char → Prop} (name : ∀ c ∈ h.name.toList, p c)
    (props : ∀ a ∈ attributes h, ∀ c ∈ (propText a).toList, p c) :
    ∀ c ∈ (tagText h).toList, p c := by
  refine forall_append name fun c hc => ?_
  rw [String.toList_join, List.flatMap_map, List.mem_flatMap] at hc
  obtain ⟨a, ha, hc⟩ := hc
  exact props a ha c hc

theorem mem_attributes_cases {h : Head} {a : String × Attr} (ha : a ∈ attributes h) :
    a.1 = "className" ∨ a ∈ h.attrs ∨ a.1 = "style" := by
  rw [attributes, List.mem_append, List.mem_append, or_assoc] at ha
  refine ha.imp (fun ha => ?_) (Or.imp_right fun ha => ?_)
  · rw [classAttr] at ha
    split at ha
    · exact absurd ha List.not_mem_nil
    · rw [List.mem_singleton.1 ha]
  · rw [styleAttr] at ha
    split at ha
    · exact absurd ha List.not_mem_nil
    · rw [List.mem_singleton.1 ha]

variable {h : Head} (safe : SafeHead h)
include safe

theorem toList_opening : (opening h).toList = '<' :: (tagText h).toList := by
  rw [opening_eq safe, String.append_assoc, ← tagText, String.toList_append]
  rfl

theorem isWord_tagName : IsWord h.name := isWord_name (all_isNameChar_tagNames h.name safe.name)

theorem notMem_tagText : '<' ∉ (tagText h).toList := by
  have all := forall_tagText (p := fun c => c ≠ '<')
    (fun c hc => ((isWord_tagName safe).1 c hc).1)
    fun a ha c hc opens => notMem_propText (safeAttr_of_mem_attributes safe ha) (opens ▸ hc)
  exact fun opens => all '<' opens rfl

theorem bare_tagText (silent : ¬ Presses h) : Bare (tagText h) := by
  refine forall_tagText (isWord_tagName safe).1 fun a ha => ?_
  refine bare_propText (safeAttr_of_mem_attributes safe ha) fun press => ?_
  have apart : "className" ≠ "onClick" ∧ "style" ≠ "onClick" := by decide
  rcases mem_attributes_cases ha with classes | own | styles
  · exact apart.1 (classes.symm.trans press)
  · exact silent ⟨a, own, press⟩
  · exact apart.2 (styles.symm.trans press)

theorem getLast?_tagText : (tagText h).toList.getLast? ≠ some '=' := by
  rw [tagText, String.toList_append, String.toList_join, List.flatMap_map]
  cases props : (attributes h).getLast? with
  | none =>
    rw [List.getLast?_eq_none_iff.1 props, List.flatMap_nil, List.append_nil]
    exact (isWord_tagName safe).2.2
  | some a =>
    obtain ⟨before, eq⟩ := List.getLast?_eq_some_iff.1 props
    have last : a ∈ attributes h := List.mem_of_mem_getLast? props
    obtain ⟨rest, blank⟩ := propText_blank a
    rw [eq, List.flatMap_append, List.flatMap_singleton, ← List.append_assoc,
      List.getLast?_append_of_ne_nil _ (by rw [blank]; exact List.cons_ne_nil _ _)]
    exact getLast?_propText (safeAttr_of_mem_attributes safe last)

theorem calm_tag (silent : ¬ Presses h) {rest : List Char} (ends : Ends rest) :
    Calm ((tagText h).toList ++ rest) := by
  have bare := bare_tagText safe silent
  rcases ends with rfl | ⟨rest, rfl, calm⟩
  · exact (calm_of_bare bare).append (by decide)
  · have ne : (tagText h).toList ≠ [] := by
      rw [tagText, String.toList_append]
      exact List.append_ne_nil_of_left_ne_nil (isWord_tagName safe).2.1 _
    rw [← List.singleton_append, ← List.append_assoc]
    exact (calm_closed bare ne (getLast?_tagText safe)).append calm

end Tags

/-- A text is detected where it is found in tags, if it is not found in what is calm. -/
theorem detects_of_tags {needle : List Char} {always only : Head → Prop}
    (findable : Text.Findable needle) (loud : ¬ needle.IsChain Quiet)
    (opened : ∀ {h}, SafeHead h → always h → FoundIn needle (opening h))
    (tags : ∀ {h}, SafeHead h → ∀ {rest}, Ends rest →
      needle <:+: '<' :: ((tagText h).toList ++ rest) → only h) :
    Detects dialect needle SafeHead always only where
  findable := findable
  opened := opened
  childless safe here := by
    have found : FoundIn needle (opening _) := opened safe here
    rw [FoundIn] at found ⊢
    change needle <:+: (childless _).toList
    rw [childless, String.toList_append]
    exact found.trans (List.prefix_append ..).isInfix
  text s := (calm_text s).not_found loud
  closing safe := (calm_closing safe).not_found loud
  openedBlock {h} safe found := by
    change needle <:+: (opening h ++ ">").toList at found
    rw [String.toList_append, toList_opening safe] at found
    exact tags safe (.inr ⟨[], rfl, by decide⟩) found
  openedText {h} safe s found := by
    change needle <:+: (opening h ++ ">" ++ text s ++ Tree.closing h).toList at found
    rw [String.toList_append, String.toList_append, String.toList_append, toList_opening safe,
      List.append_assoc, List.append_assoc, List.cons_append] at found
    have bracket : ">".toList = ['>'] := rfl
    rw [bracket, List.singleton_append] at found
    exact tags safe (.inr ⟨_, rfl, (calm_text s).append (calm_closing safe)⟩) found
  openedNone {h} safe found := by
    change needle <:+: (childless h).toList at found
    rw [childless, String.toList_append, toList_opening safe, List.cons_append] at found
    exact tags safe (.inl rfl) found

section Handler

theorem bridge_prefix {action : Action} {code : String}
    (h : action.handler? ProjectRule.bridge = some code) : "bridge.".toList <+: code.toList := by
  have joined {s : String} (hs : "bridge.".toList <+: s.toList) (t : String) :
      "bridge.".toList <+: (s ++ t).toList := by
    rw [String.toList_append]
    exact hs.trans (List.prefix_append ..)
  have call {callee : String} (hc : "bridge.".toList <+: callee.toList) (args : List Script) :
      "bridge.".toList <+: (Script.call callee args).toList :=
    joined (joined (joined hc _) _) _
  cases action with (rw [Action.handler?] at h; cases h)
  | toast | link | navigate | back => exact call (by decide) _
  | pay => exact joined (joined (joined (joined (joined (call (by decide) _) _) _) _) _) _
  | share | copy | push | user => exact joined (joined (joined (call (by decide) _) _) _) _

theorem head?_bridgeMark : AppSource.bridgeMark.toList.head? = some '=' := by decide

theorem foundIn_bridgeMark {h : Head} (safe : SafeHead h) (presses : Presses h) :
    FoundIn AppSource.bridgeMark.toList (opening h) := by
  obtain ⟨a, ha, press⟩ := presses
  obtain ⟨action, code, handles, rfl⟩ := eq_handler (safe.attrs a ha) press
  obtain ⟨rest, starts⟩ := bridge_prefix handles
  have mem : ("onClick", Attr.expr (ProjectRule.onPress code)) ∈ attributes h :=
    List.mem_append_left _ (List.mem_append_right _ ha)
  have shown : AppSource.bridgeMark.toList <:+:
      (propText ("onClick", Attr.expr (ProjectRule.onPress code))).toList := by
    have mark : AppSource.bridgeMark.toList = "=\x7b() => ".toList ++ "bridge.".toList := by decide
    refine ⟨" onClick".toList, rest ++ ['}'], ?_⟩
    rw [mark]
    simp [propText, braced, ProjectRule.onPress, ← starts]
  obtain ⟨before, after, eq⟩ := List.append_of_mem mem
  rw [FoundIn, toList_opening safe, tagText, String.toList_append, String.toList_join,
    List.flatMap_map, eq, List.flatMap_append, List.flatMap_cons]
  refine shown.trans ⟨'<' :: (h.name.toList ++ before.flatMap fun a => (propText a).toList),
    after.flatMap fun a => (propText a).toList, ?_⟩
  simp only [List.append_assoc, List.cons_append]

theorem detects_bridge :
    Detects dialect AppSource.bridgeMark.toList SafeHead Presses Presses := by
  have loud : ¬ AppSource.bridgeMark.toList.IsChain Quiet := by decide
  refine detects_of_tags ⟨⟨'=', head?_bridgeMark, by decide⟩, by decide⟩ loud foundIn_bridgeMark ?_
  intro h safe rest ends found
  by_contra silent
  have bracket : '=' ∉ ['<'] := by decide
  have behind := (Text.infix_append_of_notMem head?_bridgeMark bracket _).1 found
  exact (calm_tag safe silent ends).not_found loud behind

end Handler

section Runtime

theorem componentMark_eq (name : String) :
    (AppSource.componentMark name).toList = '<' :: (name.toList ++ [' ']) := by
  rw [AppSource.componentMark, String.toList_append, String.toList_append]
  rfl

theorem foundIn_componentMark {h : Head} (safe : SafeHead h) (props : h.attrs ≠ []) :
    FoundIn (AppSource.componentMark h.name).toList (opening h) := by
  have some : attributes h ≠ [] := by
    rw [attributes]
    exact List.append_ne_nil_of_left_ne_nil (List.append_ne_nil_of_right_ne_nil _ props) _
  obtain ⟨a, attrs, eq⟩ := List.exists_cons_of_ne_nil some
  obtain ⟨rest, blank⟩ := propText_blank a
  rw [FoundIn, componentMark_eq, toList_opening safe, tagText, eq, String.toList_append,
    String.toList_join, List.flatMap_map, List.flatMap_cons, blank]
  refine List.IsPrefix.isInfix ⟨rest ++ attrs.flatMap fun a => (propText a).toList, ?_⟩
  simp

variable {name : String} (runtime : name ∈ AppSource.runtimeComponents)
include runtime

theorem eq_of_prefix {tag : String} (known : tag ∈ tagNames) {rest : List Char}
    (starts : name.toList ++ [' '] <+: tag.toList ++ rest) : tag = name := by
  have apart : ∀ name ∈ AppSource.runtimeComponents, ∀ tag ∈ tagNames,
      tag.toList <+: name.toList ++ [' '] → tag = name := by decide
  rcases List.prefix_or_prefix_of_prefix starts (List.prefix_append ..) with longer | shorter
  · exact absurd (longer.subset (by simp)) (blank_notMem_name (all_isNameChar_tagNames tag known).2)
  · exact apart name runtime tag known shorter

theorem detects_component :
    Detects dialect (AppSource.componentMark name).toList SafeHead
      (fun h => h.name = name ∧ h.attrs ≠ []) fun h => h.name = name := by
  have laws : ∀ name ∈ AppSource.runtimeComponents,
      ¬ (AppSource.componentMark name).toList.IsChain Quiet ∧
        '\n' ∉ (AppSource.componentMark name).toList ∧
        '\r' ∉ (AppSource.componentMark name).toList := by decide
  obtain ⟨loud, unbroken⟩ := laws name runtime
  have mark := componentMark_eq name
  have starts : (AppSource.componentMark name).toList.head? = some '<' := by rw [mark]; rfl
  refine detects_of_tags ⟨⟨'<', starts, by decide⟩, unbroken⟩ loud ?_ ?_
  · rintro h safe ⟨rfl, props⟩
    exact foundIn_componentMark safe props
  intro h safe rest ends found
  rw [List.infix_cons_iff] at found
  rcases found with here | behind
  · rw [mark, List.cons_prefix_cons, tagText, String.toList_append, List.append_assoc] at here
    exact eq_of_prefix runtime safe.name here.2
  rw [Text.infix_append_of_notMem starts (notMem_tagText safe)] at behind
  rcases ends with rfl | ⟨rest, rfl, calm⟩
  · have closed : Calm " />".toList := by decide
    exact absurd behind (closed.not_found loud)
  · have bracket : '<' ∉ ['>'] := by decide
    have below := (Text.infix_append_of_notMem starts bracket rest).1 behind
    exact absurd below (calm.not_found loud)

end Runtime

end Jsx

end MiniApp

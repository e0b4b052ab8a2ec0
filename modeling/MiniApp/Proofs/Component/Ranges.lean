import MiniApp.Proofs.Code.Expression
import MiniApp.Proofs.Component.Colors
import MiniApp.Proofs.Component.Resolution
import MiniApp.Proofs.Markup.Outline
import MiniApp.Proofs.Number.Range

set_option autoImplicit false

namespace MiniApp

/-- From zero on. A whole number that is too large for a double counts as infinite. -/
inductive Double.IsNonnegative : Double → Prop
  | finite {d : Double} (finite : d.isFinite = true) (sign : 0 ≤ d.value) : IsNonnegative d
  | infinite : IsNonnegative (.infinite false)

def Allowed {α : Type} (words : List (String × α)) (a : α) : Prop := a ∈ words.map Prod.snd

namespace Markup

def tabs? (text : String) : Option (List (Outline (Parse.Start (Option String)))) :=
  match Parse.readLaid? interpret text with
  | some [.element _ tabs] => some tabs
  | _ => none

def isActive : Outline (Parse.Start (Option String)) → Bool
  | .element s _ => (Text.words (s.classes.getD "").toList).contains "mf-tab-active".toList
  | .text _ => false

def isSelected : Outline (Parse.Start (Option String)) → Bool
  | .element s _ => s.attrs.lookup "aria-selected" == some (some "true")
  | .text _ => false

end Markup

/-- The tab that the component of a project starts with: the one of its list that its index counts
to. -/
def Jsx.initialTab? (a : Code.Alphabet) : Jsx.Tree → Option Script
  | .element h _ =>
    match h.attrs.lookup "tabs", h.attrs.lookup "initialIndex" with
    | some (.expr tabs), some (.expr index) =>
      match a.read? tabs, index.toList.all Char.isDigit with
      | some (.list tabs), true => tabs[Nat.ofDigitChars 10 index.toList 0]?
      | _, _ => none
    | _, _ => none
  | _ => none

namespace Component

/-- A tab bar starts with one of its tabs, which is the same for a document and for a project. -/
structure TabBar.StartsWithTab (m : TabBar) (t : Tab) : Prop where
  active : m.tabs[m.active]? = some t
  shown : (Markup.tabs? (Markup.render (DocumentRule.tabBar m))).map (List.filter Markup.isActive) =
    some ((DocumentRule.tab m.active m.active t).outline Markup.start)
  selected :
    (Markup.tabs? (Markup.render (DocumentRule.tabBar m))).map (List.filter Markup.isSelected) =
      some ((DocumentRule.tab m.active m.active t).outline Markup.start)
  initial : ∀ a, Jsx.initialTab? a (ProjectRule.tabBar m) = some (ProjectRule.tabRecord t).shown

/-- The index of a tab bar never counts beyond its tabs, as many as a double counts one by one. -/
structure TabBar.InRange (m : TabBar) : Prop where
  ordered : (Double.ofNat (m.tabs.length - 1)).lt (.ofNat 0) = false
  none : m.tabs = [] → m.active = 0
  some : m.tabs ≠ [] → m.tabs.length ≤ 2 ^ 53 →
    m.active < m.tabs.length ∧ ∃ t, m.StartsWithTab t

end Component

def Action.InRange (action : Action) : Prop :=
  action.word ∈ Choice.words.map Prod.fst ∧
    match action with
    | .toast _ duration => duration.IsWithin 500 10000
    | .pay amount .. => amount.IsNonnegative
    | _ => True

/-- The ranges of the numbers of a component, and the keywords that it allows. -/
def Component.InRange : Component → Prop
  | container m => Allowed Direction.words m.direction ∧ Allowed Placement.alignWords m.align ∧
      Allowed Placement.justifyWords m.justify ∧ m.gap.IsWithin 0 200 ∧ m.padding.IsWithin 0 200 ∧
      m.radius.IsWithin 0 999
  | layout m => m.padding.IsWithin 0 200 ∧ m.gap.IsWithin 0 200
  | text m => Allowed TextAlign.words m.align ∧ m.size.IsWithin 8 96 ∧
      ∃ n, 1 ≤ n ∧ n ≤ 9 ∧ m.weight = .ofNat (100 * n)
  | heading m => Allowed TextAlign.words m.align ∧ 1 ≤ m.level ∧ m.level ≤ 6
  | button m => Allowed Variant.words m.variant ∧ m.action.InRange
  | image m => Allowed Fit.words m.fit ∧ m.height.IsWithin 16 1200 ∧ m.radius.IsWithin 0 999
  | card m => m.padding.IsWithin 0 200 ∧ m.radius.IsWithin 0 999
  | carousel m => m.interval.IsWithin 1000 60000 ∧ m.height.IsWithin 80 800
  | tabBar m => m.InRange
  | progress m => m.value.IsWithin 0 100 ∧ m.height.IsWithin 2 32
  | divider m => m.thickness.IsWithin 1 8 ∧ m.spacing.IsWithin 0 64
  | spacer m => m.height.IsWithin 0 400
  | input m => Allowed InputType.words m.type
  | avatar m => m.size.IsWithin 16 256
  | badge m => Allowed Tone.words m.tone
  | sheet _ | list _ | navBar _ => True

section Tabs

open Component

variable {active index : Nat}

namespace DocumentRule

open Markup (PlainHead)

theorem plain_tab (index : Nat) (t : Tab) : (tab active index t).Plain PlainHead := by
  have name : Parse.PlainName "button" := by decide
  have fixed : ∀ key ∈ ["type", "role", "aria-selected", "data-index"],
      Parse.PlainName key ∧ key ≠ "class" ∧ key ≠ "style" := by decide
  have page : Parse.PlainName "data-page" ∧ "data-page" ≠ "class" ∧ "data-page" ≠ "style" := by
    decide
  refine .block ⟨name, (by decide : "button" ≠ "br"), ?_⟩ rfl (by simp) ?_
  · rw [List.forall_mem_append, List.forall_mem_map]
    exact ⟨by simpa using fixed, fun _ _ => page⟩
  · rw [List.forall_mem_append, List.forall_mem_map, List.forall_mem_singleton]
    exact ⟨fun icon _ => .words (by decide) rfl icon, .words (by decide) rfl t.label⟩

theorem plain_tabBar (m : TabBar) : (tabBar m).Plain PlainHead := by
  have below : ∀ index, ∀ x ∈ tabsFrom m.active index m.tabs, x.Plain PlainHead := by
    induction m.tabs with
    | nil => exact fun _ => List.forall_mem_nil _
    | cons t ts ih =>
      exact fun index => List.forall_mem_cons.2 ⟨plain_tab index t, ih (index + 1)⟩
  rw [tabBar, element]
  by_cases none : tabsFrom m.active 0 m.tabs = []
  · rw [none]
    exact .leaf (by decide)
  · exact .block (by decide) rfl none (below 0)

theorem tabs?_render (m : TabBar) : Markup.tabs? (Markup.render (tabBar m)) =
    some (Tree.outlines Markup.start (tabsFrom m.active 0 m.tabs)) := by
  have read : Parse.readLaid? Markup.interpret (Markup.render (tabBar m)) = _ :=
    Markup.language_lawful.readLaid?_render rfl (plain_tabBar m)
  rw [Markup.tabs?, read]
  rfl

theorem filter_tabsFrom {marked : Outline (Parse.Start (Option String)) → Bool}
    (own : ∀ index t, ∀ o ∈ (tab active index t).outline Markup.start,
      marked o = (index == active)) (ts : List Tab) :
    (Tree.outlines Markup.start (tabsFrom active index ts)).filter marked =
      if index ≤ active then
        (ts[active - index]?).toList.flatMap fun t => (tab active active t).outline Markup.start
      else [] := by
  have other {index : Nat} (apart : index ≠ active) (t : Tab) :
      ((tab active index t).outline Markup.start).filter marked = [] :=
    List.filter_eq_nil_iff.2 fun o ho => by simp [own index t o ho, apart]
  induction ts generalizing index with
  | nil => simp [tabsFrom, Tree.outlines]
  | cons t ts ih =>
    rw [tabsFrom, Tree.outlines, List.filter_append, ih]
    rcases Nat.lt_trichotomy index active with before | rfl | behind
    · have next : active - index = active - (index + 1) + 1 := by omega
      rw [other (Nat.ne_of_lt before), if_pos (Nat.succ_le_of_lt before),
        if_pos (Nat.le_of_lt before), next, List.getElem?_cons_succ, List.nil_append]
    · have whole := List.filter_eq_self.2 fun o ho =>
        (own index t o ho).trans (beq_self_eq_true index)
      rw [whole, if_neg (Nat.not_succ_le_self _), if_pos (Nat.le_refl _), Nat.sub_self,
        List.append_nil, List.getElem?_cons_zero, Option.toList_some, List.flatMap_singleton]
    · rw [other (Nat.ne_of_gt behind), if_neg (by omega), if_neg (Nat.not_le_of_gt behind),
        List.append_nil]

theorem isActive_of_mem_tab (index : Nat) (t : Tab) :
    ∀ o ∈ (tab active index t).outline Markup.start, Markup.isActive o = (index == active) := by
  have words (b : Bool) : (Text.words ((Parse.classWords?
      (["mf-tab"] ++ if b = true then ["mf-tab-active"] else [])).getD "").toList).contains
        "mf-tab-active".toList = b := by
    cases b <;> decide
  intro o ho
  rw [List.mem_singleton.1 ho]
  exact words (index == active)

theorem isSelected_of_mem_tab (index : Nat) (t : Tab) :
    ∀ o ∈ (tab active index t).outline Markup.start, Markup.isSelected o = (index == active) := by
  intro o ho
  rw [List.mem_singleton.1 ho]
  cases index == active <;> rfl

end DocumentRule

namespace ProjectRule

open Code

theorem isLiteral_tabRecord (a : Alphabet) (t : Tab) : IsLiteral a (tabRecord t) := by
  have label : a.isName "label".toList = true := by
    simp [Alphabet.isName, a.starts_low, a.continues_low]
  have pageId : a.isName "pageId".toList = true := by
    simp [Alphabet.isName, a.starts_low, a.continues_low]
  have icon : a.isName "icon".toList = true := by
    simp [Alphabet.isName, a.starts_low, a.continues_low]
  refine .record ?_ ?_
  · simp only [List.forall_mem_append, List.forall_mem_singleton, List.forall_mem_map]
    exact ⟨⟨label, fun _ _ => pageId⟩, fun _ _ => icon⟩
  · simp only [List.forall_mem_append, List.forall_mem_singleton, List.forall_mem_map]
    exact ⟨⟨.text _, fun _ _ => .text _⟩, fun _ _ => .text _⟩

theorem initialTab?_tabBar (a : Alphabet) (m : TabBar) :
    Jsx.initialTab? a (tabBar m) = m.tabs[m.active]?.map fun t => (tabRecord t).shown := by
  have literal : IsLiteral a (.list (m.tabs.map tabRecord)) :=
    .list (List.forall_mem_map.2 fun t _ => isLiteral_tabRecord a t)
  have tabs : a.read? (Script.list (m.tabs.map tabRecord)).render =
      some (.list (m.tabs.map fun t => (tabRecord t).shown)) := by
    rw [read?_render literal, Script.shown, Script.shownItems_eq_map, List.map_map]
    rfl
  have digits : (Nat.toDigits 10 m.active).all Char.isDigit = true :=
    List.all_eq_true.2 Numeral.isDigit_of_mem_toDigits
  have second (code : String) : List.lookup "initialIndex" [("tabs", Jsx.Attr.expr code),
      ("initialIndex", .expr (toString m.active))] = some (.expr (toString m.active)) := rfl
  rw [tabBar, element, Jsx.initialTab?]
  simp only [List.lookup_cons_self, second, tabs, Numeral.toList_toString, digits,
    Nat.ofDigitChars_ten_toDigits, List.getElem?_map]

end ProjectRule

theorem Component.TabBar.startsWithTab {m : TabBar} {t : Tab} (here : m.tabs[m.active]? = some t) :
    m.StartsWithTab t where
  active := here
  shown := by
    rw [DocumentRule.tabs?_render, Option.map_some,
      DocumentRule.filter_tabsFrom DocumentRule.isActive_of_mem_tab, if_pos (Nat.zero_le _),
      Nat.sub_zero, here, Option.toList_some, List.flatMap_singleton]
  selected := by
    rw [DocumentRule.tabs?_render, Option.map_some,
      DocumentRule.filter_tabsFrom DocumentRule.isSelected_of_mem_tab, if_pos (Nat.zero_le _),
      Nat.sub_zero, here, Option.toList_some, List.flatMap_singleton]
  initial a := by rw [ProjectRule.initialTab?_tabBar, here, Option.map_some]

end Tabs

namespace Double

theorem lt_ofNat_zero (n : Nat) : (ofNat n).lt (ofNat 0) = false := by
  rw [ofNat_eq (n := 0) (by decide), Nat.zero_mul, ofNat, ofRatio]
  split
  · rw [lt, decide_eq_false_iff_not]
    exact Int.not_lt.2 (Int.natCast_nonneg _)
  · rfl

theorem value_zero : zero.value = 0 := by
  rw [zero, value_finite, signed, if_neg Bool.false_ne_true, Int.ofNat_zero, Int.cast_zero,
    zero_div]

theorem isNonnegative_of_isNumber {d : Double} (h : d.IsNumber) :
    (if d.lt zero then zero else d).IsNonnegative := by
  split
  · exact .finite rfl value_zero.ge
  · next above =>
    cases h with
    | infinite negative =>
      cases negative with
      | false => exact .infinite
      | true => exact absurd rfl above
    | finite negative u =>
      rw [zero, lt_finite] at above
      exact .finite rfl (div_nonneg (Int.cast_nonneg (Int.not_lt.1 above)) scale_cast_pos.le)

end Double

theorem Numeral.isFinite_of_read? {s : String} {d : Double} (h : read? s = some d) :
    d.isFinite = true := by
  rw [read?, Option.filter_eq_some_iff] at h
  exact h.2

namespace Props

open Double

theorem isNumber_readNumber {v : Json} {d : Double} (read : readNumber v = .found d) :
    d.IsNumber := by
  unfold readNumber at read
  split at read
  · rw [← Reading.found.inj read, Double.ofInt]
    exact isNumber_ofRatio _ _ _
  · split at read
    · next finite =>
      cases read
      exact isNumber_of_isFinite finite
    · cases read
  · split at read
    · next found =>
      cases read
      exact isNumber_of_isFinite (Numeral.isFinite_of_read? found)
    · cases read
  · cases read

theorem isNumber_number (p : Props) (key : String) {fallback : Double} (h : fallback.IsNumber) :
    Except.Gives IsNumber (p.number key fallback) :=
  gives_read p key (fun _ _ _ => isNumber_readNumber) h

theorem isWithin_ranged (p : Props) (key : String) (fallback lo hi : Nat) (range : lo ≤ hi)
    (few : hi < 2 ^ 53) : Except.Gives (IsWithin lo hi) (p.ranged key fallback lo hi) := by
  refine .map fun d found => ?_
  have number := p.isNumber_number key (isNumber_ofRatio false _ 1) d found
  rw [ofNat_eq (Nat.lt_of_le_of_lt range few), ofNat_eq few]
  exact isWithin_clamp number range

theorem allowed_keyword {α : Type} (p : Props) (key : String) {words : List (String × α)}
    {fallback : α} (h : Allowed words fallback) :
    Except.Gives (Allowed words) (p.keyword key words fallback) := by
  refine p.gives_read key (fun v _ a read => ?_) h
  unfold readKeyword at read
  split at read
  · split at read
    · next found =>
      cases read
      obtain ⟨before, behind, whole, -⟩ := List.lookup_eq_some_iff.1 found
      rw [Allowed, whole]
      simp
    · cases read
  · cases read

end Props

open MiniApp.Except (Gives)

theorem Action.inRange_resolve (p : Props) : Gives InRange (resolve p) := by
  have word (action : Action) : action.word ∈ Choice.words.map Prod.fst := by
    cases action <;> simp [Action.word, Choice.words]
  rw [resolve]
  refine .bind fun choice => ?_
  cases choice with
  | toast =>
    refine .bind fun _ =>
      .bind_of (p.isWithin_ranged "duration" 2000 500 10000 (by decide) (by decide)) ?_
    exact fun _ within => .ok ⟨word _, within⟩
  | pay =>
    have zero : Double.zero.IsNumber := Double.isNumber_of_isFinite rfl
    refine .bind_of (p.isNumber_number "amount" zero) fun amount isNumber => ?_
    exact .bind fun _ => .bind fun _ => .bind fun _ => .bind fun _ =>
      .ok ⟨word _, Double.isNonnegative_of_isNumber isNumber⟩
  | link => exact .bind fun _ => .ok ⟨word _, trivial⟩
  | navigate => exact .bind fun _ => .bind fun _ => .ok ⟨word _, trivial⟩
  | share => exact .bind fun _ => .bind fun _ => .bind fun _ => .ok ⟨word _, trivial⟩
  | copy =>
    refine .bind fun text => ?_
    cases text with
    | some => exact .ok ⟨word _, trivial⟩
    | none => exact .bind fun _ => .ok ⟨word _, trivial⟩
  | none | back | push | user => exact .ok ⟨word _, trivial⟩

namespace Component

open Double in
theorem roundToHundreds_eq {d : Double} (h : d.IsWithin 100 900) :
    ∃ n, 1 ≤ n ∧ n ≤ 9 ∧ roundToHundreds d = .ofNat (100 * n) := by
  have divided : (d.div (.finite false (100 * scale))).IsWithin 1 9 :=
    h.div (m := 100) (by decide) (by decide) (by decide)
  obtain ⟨negative, n, least, most, sign, rounded⟩ := divided.round
  have plus : negative = false := Bool.eq_false_iff.2 fun minus => by
    have none := sign minus
    omega
  refine ⟨n, least, most, ?_⟩
  rw [roundToHundreds, ofNat_eq (by decide), rounded, plus, mul_ofNat (by omega), ofNat_eq (by omega)]

theorem inRange_actionOf (p : Props) : Gives Action.InRange (actionOf p) := by
  unfold actionOf
  split
  · exact .ok ⟨by decide, trivial⟩
  · exact Action.inRange_resolve p

theorem TabBar.inRange_resolve (p : Props) : Gives TabBar.InRange (resolve p) := by
  rw [resolve]
  refine .bind fun items => ?_
  generalize items.filterMap tab? = tabs
  have ordered := Double.lt_ofNat_zero (tabs.length - 1)
  rcases Nat.lt_or_ge (tabs.length - 1) (2 ^ 53) with few | many
  · refine .bind_of (p.isWithin_ranged "active" 0 0 _ (Nat.zero_le _) few) fun active within => ?_
    have most : active.round.toNat ≤ tabs.length - 1 := within.toNat_round.2
    refine .ok ⟨ordered, fun none => ?_, fun some _ => ?_⟩
    · exact Nat.le_zero.1 (by simpa [show tabs = [] from none] using most)
    · have positive : 0 < tabs.length := List.length_pos_iff.2 some
      have inside : active.round.toNat < tabs.length := by omega
      exact ⟨inside, _, startsWithTab (List.getElem?_eq_getElem inside)⟩
  · refine .bind fun active => .ok ⟨ordered, fun none => ?_, fun _ few => ?_⟩
    · simp [show tabs = [] from none] at many
    · have : tabs.length ≤ 2 ^ 53 := few
      omega

theorem inRange_resolve (kind : Kind) (p : Props) : Gives InRange (resolve kind p) := by
  have ranged (key : String) (fallback lo hi : Nat) (range : lo ≤ hi ∧ hi < 2 ^ 53) :
      Gives (Double.IsWithin lo hi) (p.ranged key fallback lo hi) :=
    p.isWithin_ranged key fallback lo hi range.1 range.2
  have textAlign : Gives (Allowed TextAlign.words) (p.keyword "align" TextAlign.words .left) :=
    p.allowed_keyword "align" (.head _)
  cases kind <;> refine .map ?_
  case container =>
    refine .bind_of (p.allowed_keyword "direction" (.head _)) fun direction column => ?_
    refine .bind_of (ranged "gap" 12 0 200 (by decide)) fun gap inGap => ?_
    refine .bind_of (ranged "padding" 16 0 200 (by decide)) fun padding inPadding => ?_
    refine .bind_of (p.allowed_keyword "align" (.head _)) fun align stretch => ?_
    refine .bind_of (p.allowed_keyword "justify" (.head _)) fun justify start => ?_
    refine .bind_of (ranged "radius" 0 0 999 (by decide)) fun radius inRadius => ?_
    exact .ok ⟨column, stretch, start, inGap, inPadding, inRadius⟩
  case layout =>
    refine .bind_of (ranged "padding" 16 0 200 (by decide)) fun padding inPadding => ?_
    exact .bind_of (ranged "gap" 12 0 200 (by decide)) fun gap inGap => .ok ⟨inPadding, inGap⟩
  case text =>
    refine .bind fun _ => .bind_of (ranged "size" 16 8 96 (by decide)) fun size inSize => ?_
    refine .bind_of textAlign fun align left => ?_
    refine .bind_of (ranged "weight" 400 100 900 (by decide)) fun weight inWeight => ?_
    exact .ok ⟨left, inSize, roundToHundreds_eq inWeight⟩
  case heading =>
    refine .bind fun _ => .bind_of (ranged "level" 2 1 6 (by decide)) fun level inLevel => ?_
    exact .bind_of textAlign fun align left => .ok ⟨left, inLevel.toNat_round⟩
  case button =>
    refine .bind_of (inRange_actionOf p) fun action inRange => .bind fun _ => ?_
    refine .bind_of (p.allowed_keyword "variant" (.head _)) fun variant primary => ?_
    exact .bind fun _ => .bind fun _ => .ok ⟨primary, inRange⟩
  case image =>
    refine .bind fun _ => .bind_of (ranged "height" 180 16 1200 (by decide)) fun _ inHeight => ?_
    refine .bind_of (ranged "radius" 12 0 999 (by decide)) fun radius inRadius => ?_
    exact .bind_of (p.allowed_keyword "fit" (.head _)) fun fit cover =>
      .ok ⟨cover, inHeight, inRadius⟩
  case card =>
    refine .bind fun _ => .bind fun _ => ?_
    refine .bind_of (ranged "padding" 16 0 200 (by decide)) fun padding inPadding => ?_
    exact .bind_of (ranged "radius" 16 0 999 (by decide)) fun radius inRadius =>
      .ok ⟨inPadding, inRadius⟩
  case carousel =>
    refine .bind fun _ => ?_
    refine .bind_of (ranged "interval" 3000 1000 60000 (by decide)) fun interval inInterval => ?_
    exact .bind fun _ => .bind_of (ranged "height" 200 80 800 (by decide)) fun height inHeight =>
      .ok ⟨inInterval, inHeight⟩
  case tabBar => exact TabBar.inRange_resolve p
  case progress =>
    refine .bind_of (ranged "value" 0 0 100 (by decide)) fun value inValue => ?_
    refine .bind_of (ranged "height" 8 2 32 (by decide)) fun height inHeight => ?_
    exact .bind fun _ => .bind fun _ => .ok ⟨inValue, inHeight⟩
  case divider =>
    refine .bind_of (ranged "thickness" 1 1 8 (by decide)) fun thickness inThickness => ?_
    exact .bind_of (ranged "spacing" 8 0 64 (by decide)) fun spacing inSpacing =>
      .ok ⟨inThickness, inSpacing⟩
  case spacer =>
    exact .bind_of (ranged "height" 16 0 400 (by decide)) fun height inHeight => .ok inHeight
  case input =>
    refine .bind fun _ => .bind fun _ => ?_
    exact .bind_of (p.allowed_keyword "inputType" (.head _)) fun type text =>
      .bind fun _ => .bind fun _ => .ok text
  case avatar =>
    exact .bind fun _ => .bind_of (ranged "size" 48 16 256 (by decide)) fun size inSize =>
      .ok inSize
  case badge =>
    exact .bind fun _ => .bind_of (p.allowed_keyword "tone" (.head _)) fun tone primary =>
      .ok primary
  all_goals exact fun _ _ => trivial

end Component

open Component

/-- Whatever is resolved is in range, from any values over any defaults. -/
theorem resolved_in_range (kind : Kind) (p : Props) {component : Component}
    (resolved : Component.resolve kind p = .ok component) : component.InRange :=
  inRange_resolve kind p component resolved

/-- An index far behind the last of two tabs. -/
theorem resolved_in_range_tab_bar :
    let p : Props := ⟨[("active", .string "7"), ("tabs", .array [.string "A", .string "B"])], []⟩
    ∃ m : TabBar, Component.resolve .tabBar p = .ok (.tabBar m) ∧ m.InRange ∧
      m.active = 1 ∧ m.StartsWithTab ⟨"B", none, none⟩ := by
  intro p
  have bar : (TabBar.resolve p).toOption.map (fun m => (m.tabs, m.active)) =
      some ([⟨"A", none, none⟩, ⟨"B", none, none⟩], 1) := by decide +kernel
  obtain ⟨m, found, same⟩ := Option.map_eq_some_iff.1 bar
  obtain ⟨tabs, active⟩ := Prod.mk.inj same
  have resolved : Component.resolve .tabBar p = .ok (.tabBar m) := by
    rw [Component.resolve]
    cases result : TabBar.resolve p with
    | error => simp [result, Except.toOption] at found
    | ok m' =>
      rw [result] at found
      rw [← Option.some.inj found]
      rfl
  have inRange : m.InRange := resolved_in_range .tabBar p resolved
  have some : m.tabs ≠ [] := by simp [tabs]
  obtain ⟨-, t, starts⟩ := inRange.some some (by simp [tabs])
  obtain rfl : t = ⟨"B", none, none⟩ := by simpa [tabs, active] using starts.active.symm
  exact ⟨m, resolved, inRange, active, starts⟩

end MiniApp

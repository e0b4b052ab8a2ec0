import Mathlib.Data.List.Nodup
import MiniApp.Proofs.Markup.Safety
import MiniApp.Proofs.Source.Fill

set_option autoImplicit false

namespace MiniApp.Markup

def referenceNames : List String := ["for", "aria-labelledby", "data-mf-sheet-open"]

def linkNames : List String := "id" :: referenceNames

@[simp]
theorem mem_linkNames_iff (name : String) : name ∈ linkNames ↔
    name = "id" ∨ name = "for" ∨ name = "aria-labelledby" ∨ name = "data-mf-sheet-open" := by
  simp [linkNames, referenceNames]

def Tag.attrs : Tag → List (String × Option String)
  | .opening _ attrs => attrs
  | .closing _ => []

def valueNamed (name : String) (a : String × Option String) : Option String :=
  if a.1 = name then a.2 else none

def Tag.values (name : String) (tag : Tag) : List String := tag.attrs.filterMap (valueNamed name)

def valuesOf (name : String) (tags : List Tag) : List String := tags.flatMap (Tag.values name)

/-- Ids are distinct, and every reference is the id of exactly one element. -/
structure Linked (tags : List Tag) : Prop where
  distinct : (valuesOf "id" tags).Nodup
  resolved : ∀ name ∈ referenceNames, ∀ value ∈ valuesOf name tags,
    (tags.countP fun tag => value ∈ tag.values "id") = 1

section Links

def links (attrs : List (String × Option String)) : List (String × Option String) :=
  attrs.filter fun a => linkNames.contains a.1

def linksOf (tags : List Tag) : List (String × Option String) :=
  tags.flatMap fun tag => links tag.attrs

/-- Every link has an id among the links as its value. -/
def Resolved (ls : List (String × Option String)) : Prop := ∀ l ∈ ls, ("id", l.2) ∈ ls

theorem resolved_append {ls ms : List (String × Option String)} (hl : Resolved ls)
    (hm : Resolved ms) : Resolved (ls ++ ms) :=
  List.forall_mem_append.2 ⟨fun l h => List.mem_append_left _ (hl l h),
    fun l h => List.mem_append_right _ (hm l h)⟩

theorem resolved_flatMap {α : Type} {xs : List α} {f : α → List (String × Option String)}
    (h : ∀ x ∈ xs, Resolved (f x)) : Resolved (xs.flatMap f) := by
  intro l hl
  obtain ⟨x, hx, hl⟩ := List.mem_flatMap.1 hl
  exact List.mem_flatMap.2 ⟨x, hx, h x hx l hl⟩

theorem valueNamed_eq_some_iff {name value : String} {a : String × Option String} :
    valueNamed name a = some value ↔ a = (name, some value) := by
  rw [valueNamed, Prod.ext_iff]
  split
  · next same => exact (and_iff_right same).symm
  · next other => exact iff_of_false nofun fun h => other h.1

theorem filterMap_links {name : String} (known : name ∈ linkNames)
    (attrs : List (String × Option String)) :
    (links attrs).filterMap (valueNamed name) = attrs.filterMap (valueNamed name) := by
  induction attrs with
  | nil => rfl
  | cons a attrs ih =>
    rw [links, List.filter_cons, List.filterMap_cons (l := attrs), ← ih, links]
    split
    · rfl
    · next unknown =>
      have other : valueNamed name a = none := by
        rw [valueNamed, if_neg]
        rintro rfl
        exact unknown (by simpa using known)
      rw [other]

theorem valuesOf_eq_filterMap {name : String} (known : name ∈ linkNames) (tags : List Tag) :
    valuesOf name tags = (linksOf tags).filterMap (valueNamed name) := by
  rw [linksOf, List.filterMap_flatMap]
  exact List.flatMap_congr fun tag _ => (filterMap_links known tag.attrs).symm

theorem mem_valuesOf_iff {name value : String} (known : name ∈ linkNames) {tags : List Tag} :
    value ∈ valuesOf name tags ↔ (name, some value) ∈ linksOf tags := by
  simp only [valuesOf_eq_filterMap known, List.mem_filterMap, valueNamed_eq_some_iff,
    exists_eq_right]

theorem countP_eq_one {α β : Type} [DecidableEq β] {f : α → List β} {b : β} {xs : List α}
    (distinct : (xs.flatMap f).Nodup) (mem : b ∈ xs.flatMap f) :
    (xs.countP fun x => b ∈ f x) = 1 := by
  induction xs with
  | nil => exact absurd mem List.not_mem_nil
  | cons x xs ih =>
    rw [List.flatMap_cons, List.nodup_append] at distinct
    rw [List.flatMap_cons, List.mem_append] at mem
    rw [List.countP_cons]
    by_cases here : b ∈ f x
    · have nowhere : (xs.countP fun x => b ∈ f x) = 0 := by
        rw [List.countP_eq_zero]
        intro y hy there
        exact distinct.2.2 b here b (List.mem_flatMap.2 ⟨y, hy, by simpa using there⟩) rfl
      simp [nowhere, here]
    · have elsewhere := ih distinct.2.1 (mem.resolve_left here)
      simp [elsewhere, here]

theorem linked_of_resolved {tags : List Tag} (distinct : (linksOf tags).Nodup)
    (resolved : Resolved (linksOf tags)) : Linked tags := by
  have id : "id" ∈ linkNames := List.mem_cons_self
  have ids : (valuesOf "id" tags).Nodup := by
    rw [valuesOf_eq_filterMap id]
    refine distinct.filterMap fun a b value ha hb => ?_
    rw [valueNamed_eq_some_iff.1 ha, valueNamed_eq_some_iff.1 hb]
  refine ⟨ids, fun name known value mem => countP_eq_one ids ?_⟩
  rw [mem_valuesOf_iff (List.mem_cons_of_mem _ known)] at mem
  exact (mem_valuesOf_iff id).2 (resolved _ mem)

end Links

section Trees

variable (read : String → List Tag)

def attrLinks (attrs : List (String × Attr)) : List (String × Option String) :=
  links (attrs.map fun a => (a.1, a.2.value))

@[simp]
theorem attrLinks_nil : attrLinks [] = [] := rfl

@[simp]
theorem attrLinks_cons (name : String) (attr : Attr) (attrs : List (String × Attr)) :
    attrLinks ((name, attr) :: attrs) =
      if name ∈ linkNames then (name, attr.value) :: attrLinks attrs else attrLinks attrs := by
  rw [attrLinks, List.map_cons, links, List.filter_cons, List.contains_eq_mem]
  simp only [decide_eq_true_eq]
  rfl

@[simp]
theorem linksOf_nil : linksOf [] = [] := rfl

@[simp]
theorem linksOf_append (tags others : List Tag) :
    linksOf (tags ++ others) = linksOf tags ++ linksOf others := List.flatMap_append

theorem linksOf_cons (tag : Tag) (tags : List Tag) :
    linksOf (tag :: tags) = links tag.attrs ++ linksOf tags := rfl

@[simp]
theorem linksOf_closing (name : String) : linksOf [.closing name] = [] := rfl

theorem links_startTag (head : Head) : links (startTag head).attrs = attrLinks head.attrs := by
  have classes : links ((classAttr head.classes).map fun a => (a.1, a.2.value)) = [] := by
    rw [classAttr]
    split <;> rfl
  have styles : links ((styleAttr head.styles).map fun a => (a.1, a.2.value)) = [] := by
    rw [styleAttr]
    split <;> rfl
  rw [links] at classes styles
  rw [startTag, Tag.attrs, attributes, List.map_append, List.map_append, links, List.filter_append,
    List.filter_append, classes, styles, List.append_nil]
  rfl

@[simp]
theorem linksOf_text (s : String) : linksOf (tagsOf read (.text s)) = [] := by
  rw [tagsOf]
  generalize s.toList.count '\n' = n
  induction n with
  | zero => rfl
  | succ n ih => rw [List.replicate_succ, linksOf_cons, ih]; rfl

@[simp]
theorem linksOf_all_nil : linksOf (tagsOfAll read []) = [] := rfl

@[simp]
theorem linksOf_all_cons (t : Markup.Tree) (ts : List Markup.Tree) :
    linksOf (tagsOfAll read (t :: ts)) = linksOf (tagsOf read t) ++ linksOf (tagsOfAll read ts) := by
  rw [tagsOfAll, linksOf_append]

@[simp]
theorem linksOf_all_append (ts us : List Markup.Tree) :
    linksOf (tagsOfAll read (ts ++ us)) =
      linksOf (tagsOfAll read ts) ++ linksOf (tagsOfAll read us) := by
  rw [tagsOfAll_eq_flatMap, tagsOfAll_eq_flatMap, tagsOfAll_eq_flatMap, List.flatMap_append,
    linksOf_append]

@[simp]
theorem linksOf_all_map {α : Type} (f : α → Markup.Tree) (xs : List α) :
    linksOf (tagsOfAll read (xs.map f)) = xs.flatMap fun x => linksOf (tagsOf read (f x)) := by
  induction xs with
  | nil => rfl
  | cons x xs ih => rw [List.map_cons, linksOf_all_cons, ih, List.flatMap_cons]

theorem linksOf_element (head : Head) (children : List Markup.Tree) :
    linksOf (tagsOf read (.element head children)) =
      attrLinks head.attrs ++ if head.isVoid then [] else linksOf (tagsOfAll read children) := by
  rw [tagsOf]
  split
  · rw [linksOf_cons, links_startTag, linksOf_nil]
  · rw [linksOf_cons, links_startTag, linksOf_append, linksOf_closing, List.append_nil]

end Trees

section Fill

variable (read : String → List Tag) (elements : String → List Markup.Tree)

mutual

theorem tagsOfAll_fill (t : Markup.Tree) :
    tagsOfAll read (t.fill elements) = tagsOf (fun f => tagsOfAll read (elements f)) t := by
  cases t with
  | text s => rw [Tree.fill, tagsOfAll, tagsOfAll, List.append_nil, tagsOf, tagsOf]
  | raw f => rw [Tree.fill, tagsOf]
  | element head children =>
    rw [Tree.fill, tagsOfAll, tagsOfAll, List.append_nil, tagsOf, tagsOf,
      tagsOfAll_fillAll children]

theorem tagsOfAll_fillAll (ts : List Markup.Tree) :
    tagsOfAll read (Tree.fillAll elements ts) =
      tagsOfAll (fun f => tagsOfAll read (elements f)) ts := by
  cases ts with
  | nil => rw [Tree.fillAll, tagsOfAll, tagsOfAll]
  | cons t ts =>
    rw [Tree.fillAll, tagsOfAll_eq_flatMap, List.flatMap_append, ← tagsOfAll_eq_flatMap,
      ← tagsOfAll_eq_flatMap, tagsOfAll_fill t, tagsOfAll_fillAll ts, tagsOfAll]

end

end Fill

end MiniApp.Markup

import MiniApp.Proofs.Props.Default

set_option autoImplicit false

namespace MiniApp

namespace Json

def withoutNulls : Json → Json
  | .object fields => .object (Props.withoutNulls fields)
  | v => v

def itemsWithoutNulls : Json → Json
  | .array items => .array (items.map withoutNulls)
  | v => v

theorem kind_itemsWithoutNulls (v : Json) : v.itemsWithoutNulls.kind = v.kind := by
  cases v <;> rfl

theorem isNull_itemsWithoutNulls (v : Json) : v.itemsWithoutNulls.isNull = v.isNull := by
  cases v <;> rfl

def alterField (key : String) (f : Json → Json) (fs : Fields) : Fields :=
  fs.map fun e => (e.1, if e.1 = key then f e.2 else e.2)

theorem lookup_alterField (key : String) (f : Json → Json) (fs : Fields) (k : String) :
    (alterField key f fs).lookup k = (fs.lookup k).map fun v => if k = key then f v else v :=
  lookup_map (fun name v => if name = key then f v else v) fs k

end Json

namespace Props

theorem map_withoutNulls_textItems (s : String) :
    (textItems s).map Json.withoutNulls = textItems s := by
  rw [textItems, List.map_filterMap]
  congr 1
  funext line
  split <;> rfl

/-- The properties with the null fields deleted from the items of one list, in both tiers. -/
def withoutItemNulls (key : String) (p : Props) : Props :=
  ⟨Json.alterField key Json.itemsWithoutNulls p.explicit,
    Json.alterField key Json.itemsWithoutNulls p.defaults⟩

section WithoutItemNulls

variable (p : Props) (key : String)

theorem values_withoutItemNulls (k : String) :
    (p.withoutItemNulls key).values k =
      (p.values k).map fun v => if k = key then v.itemsWithoutNulls else v := by
  have null (v : Json) : (if k = key then v.itemsWithoutNulls else v).isNull = v.isNull := by
    split
    · exact v.isNull_itemsWithoutNulls
    · rfl
  rw [values, values, withoutItemNulls, Json.lookup_alterField, Json.lookup_alterField,
    Option.toList_map, Option.toList_map, ← List.map_append, List.filter_map]
  congr 2
  funext v
  exact congrArg Bool.not (null v)

theorem read_withoutItemNulls_of_ne {k : String} (other : k ≠ key) {α : Type}
    (reader : Json → Reading α) (fallback : α) :
    (p.withoutItemNulls key).read k reader fallback = p.read k reader fallback := by
  rw [read, read, values_withoutItemNulls, List.map_congr_left fun v _ => if_neg other,
    List.map_id']

theorem readItems_itemsWithoutNulls (v : Json) :
    readItems v.itemsWithoutNulls =
      match readItems v with
      | .found items => .found (items.map Json.withoutNulls)
      | .unusable => .unusable
      | .wrongShape expected => .wrongShape expected := by
  cases v with
  | string s => exact congrArg Reading.found (map_withoutNulls_textItems s).symm
  | null | bool | integer | float | array | object => rfl

theorem items_withoutItemNulls :
    (p.withoutItemNulls key).items key =
      (p.items key).map fun items => items.map Json.withoutNulls := by
  rw [items, items, read, read, values_withoutItemNulls,
    List.map_congr_left fun v _ => if_pos rfl]
  induction p.values key with
  | nil => rfl
  | cons v vs ih =>
    rw [List.map_cons, firstUsable, firstUsable, readItems_itemsWithoutNulls,
      v.kind_itemsWithoutNulls]
    cases readItems v with
    | found items => rfl
    | unusable => exact ih
    | wrongShape expected => rfl

end WithoutItemNulls

end Props

namespace Component

variable (fields : Fields)

theorem bind_lookup_withoutNulls {α : Type} {f : Json → Option α} (null : f .null = none)
    (key : String) : ((Props.withoutNulls fields).lookup key).bind f =
      (fields.lookup key).bind f := by
  rw [Props.lookup_withoutNulls]
  rcases fields.lookup key with - | v
  · rfl
  · cases v with
    | null => exact null.symm
    | bool | integer | float | string | array | object => rfl

theorem tabField?_withoutNulls (names : List String) :
    tabField? (Props.withoutNulls fields) names = tabField? fields names := by
  rw [tabField?, tabField?]
  congr 2
  funext name
  exact bind_lookup_withoutNulls fields rfl name

theorem tab?_withoutNulls (item : Json) : tab? item.withoutNulls = tab? item := by
  cases item with
  | object fields =>
    rw [Json.withoutNulls, tab?, tab?, tabField?_withoutNulls, tabField?_withoutNulls,
      tabField?_withoutNulls]
  | null | bool | integer | float | string | array => rfl

/-- An address that can be used, behind a null under the name that is looked up first. -/
def hidesAddress : Json → Bool
  | .object fields =>
    (fields.lookup "src").any Json.isNull &&
      (((fields.lookup "url").bind Props.stringOf?).bind Sanitize.url?).isSome
  | _ => false

theorem slideSource?_of_null (null : fields.lookup "src" = some .null) :
    slideSource? fields = none ∧ slideSource? (Props.withoutNulls fields) =
      (fields.lookup "url").bind Props.stringOf? := by
  rw [Json.slideSource?_eq_bind, Json.slideSource?_eq_bind, Props.lookup_withoutNulls, null]
  exact ⟨rfl, bind_lookup_withoutNulls fields rfl "url"⟩

theorem slideSource?_of_not_null (other : fields.lookup "src" ≠ some .null) :
    slideSource? (Props.withoutNulls fields) = slideSource? fields := by
  rw [Json.slideSource?_eq_bind, Json.slideSource?_eq_bind, Props.lookup_withoutNulls _ "src"]
  cases src : fields.lookup "src" with
  | none => exact bind_lookup_withoutNulls fields rfl "url"
  | some v =>
    cases v with
    | null => exact absurd src other
    | bool | integer | float | string | array | object => rfl

theorem slide?_object_withoutNulls (number : Nat)
    (source : (slideSource? (Props.withoutNulls fields)).bind Sanitize.url? =
      (slideSource? fields).bind Sanitize.url?) :
    slide? number (Json.withoutNulls (.object fields)) = slide? number (.object fields) := by
  rw [Json.withoutNulls, slide?, slide?, source, bind_lookup_withoutNulls fields rfl "alt"]

variable {item : Json}

theorem slide?_withoutNulls (number : Nat) (shown : hidesAddress item = false) :
    slide? number item.withoutNulls = slide? number item := by
  cases item with
  | null | bool | integer | float | string | array => rfl
  | object fields =>
    apply slide?_object_withoutNulls
    by_cases null : fields.lookup "src" = some .null
    · obtain ⟨hidden, second⟩ := slideSource?_of_null fields null
      rw [hidesAddress, null] at shown
      rw [hidden, second]
      exact Option.not_isSome_iff_eq_none.1 (ne_true_of_eq_false shown)
    · rw [slideSource?_of_not_null fields null]

theorem slide?_of_hidesAddress (number : Nat) (hidden : hidesAddress item = true) :
    slide? number item = none ∧ (slide? number item.withoutNulls).isSome = true := by
  cases item with
  | null | bool | integer | float | string | array => cases hidden
  | object fields =>
    rw [hidesAddress, Bool.and_eq_true, Option.any_eq_true] at hidden
    obtain ⟨⟨v, src, null⟩, address⟩ := hidden
    cases v with
    | null =>
      obtain ⟨first, second⟩ := slideSource?_of_null fields src
      rw [Json.withoutNulls, slide?, slide?, first, second]
      exact ⟨rfl, Option.isSome_map.trans address⟩
    | bool | integer | float | string | array | object => cases null

theorem length_slidesFrom_withoutNulls (number : Nat) (items : List Json) :
    (slidesFrom number (items.map Json.withoutNulls)).length =
      (slidesFrom number items).length + items.countP hidesAddress := by
  induction items generalizing number with
  | nil => rfl
  | cons item items ih =>
    rw [List.map_cons, slidesFrom, slidesFrom, List.length_append, List.length_append, ih,
      List.countP_cons]
    cases hidden : hidesAddress item with
    | true =>
      obtain ⟨none, some⟩ := slide?_of_hidesAddress number hidden
      obtain ⟨slide, made⟩ := Option.isSome_iff_exists.1 some
      rw [none, made, if_pos rfl, Option.toList_some, Option.toList_none, List.length_singleton,
        List.length_nil]
      omega
    | false =>
      rw [slide?_withoutNulls number hidden, if_neg Bool.false_ne_true]
      omega

theorem slidesFrom_withoutNulls_eq_iff (number : Nat) (items : List Json) :
    slidesFrom number (items.map Json.withoutNulls) = slidesFrom number items ↔
      ∀ item ∈ items, hidesAddress item = false := by
  constructor
  · intro same item member
    have count := length_slidesFrom_withoutNulls number items
    rw [same] at count
    have none : items.countP hidesAddress = 0 := by omega
    exact Bool.eq_false_iff.2 (List.countP_eq_zero.1 none item member)
  · intro shown
    induction items generalizing number with
    | nil => rfl
    | cons item items ih =>
      obtain ⟨first, rest⟩ := List.forall_mem_cons.1 shown
      rw [List.map_cons, slidesFrom, slidesFrom, slide?_withoutNulls number first, ih _ rest]

end Component

namespace Component

variable (p : Props)

theorem ranged_withoutItemNulls_of_ne {key k : String} (other : k ≠ key) (fallback lo hi : Nat) :
    (p.withoutItemNulls key).ranged k fallback lo hi = p.ranged k fallback lo hi :=
  congrArg (Except.map _) (p.read_withoutItemNulls_of_ne key other Props.readNumber _)

theorem tabBar_withoutItemNulls :
    TabBar.resolve (p.withoutItemNulls "tabs") = TabBar.resolve p := by
  have active (last : Nat) : (p.withoutItemNulls "tabs").ranged "active" 0 0 last =
      p.ranged "active" 0 0 last :=
    ranged_withoutItemNulls_of_ne p (by decide) 0 0 last
  rw [TabBar.resolve, TabBar.resolve, p.items_withoutItemNulls]
  cases p.items "tabs" with
  | error => rfl
  | ok items =>
    have tabs : (items.map Json.withoutNulls).filterMap tab? = items.filterMap tab? := by
      rw [List.filterMap_map]
      exact congrArg (List.filterMap · items) (funext tab?_withoutNulls)
    simp only [Except.map, bind, Except.bind, tabs, active]

/-- What a carousel has beside its slides. -/
def Carousel.settings (p : Props) : Except PropError (Double × Bool × Double) := do
  let interval ← p.ranged "interval" 3000 1000 60000
  let autoplay ← p.bool "autoplay" true
  let height ← p.ranged "height" 200 80 800
  return (interval, autoplay, height)

theorem Carousel.resolve_eq_settings : Carousel.resolve p = do
    let images ← p.items "images"
    let (interval, autoplay, height) ← settings p
    return ⟨slidesFrom 1 images, interval, autoplay, height⟩ := by
  simp only [resolve, settings, bind_assoc, pure_bind]

theorem settings_withoutItemNulls :
    Carousel.settings (p.withoutItemNulls "images") = Carousel.settings p := by
  have autoplay : (p.withoutItemNulls "images").bool "autoplay" true = p.bool "autoplay" true :=
    p.read_withoutItemNulls_of_ne "images" (by decide) Props.readBool true
  rw [Carousel.settings, Carousel.settings, autoplay, ranged_withoutItemNulls_of_ne p (by decide),
    ranged_withoutItemNulls_of_ne p (by decide)]

theorem carousel_withoutItemNulls_eq_iff :
    Carousel.resolve (p.withoutItemNulls "images") = Carousel.resolve p ↔
      ∀ images, p.items "images" = .ok images → (∃ m, Carousel.resolve p = .ok m) →
        ∀ item ∈ images, hidesAddress item = false := by
  rw [Carousel.resolve_eq_settings, Carousel.resolve_eq_settings, p.items_withoutItemNulls,
    settings_withoutItemNulls]
  cases p.items "images" with
  | error e => exact iff_of_true rfl fun _ failed => nomatch failed
  | ok images =>
    rcases Carousel.settings p with e | ⟨interval, autoplay, height⟩
    · exact iff_of_true rfl fun _ _ ⟨_, failed⟩ => nomatch failed
    · simp only [Except.map, bind, Except.bind, pure, Except.pure, Except.ok.injEq,
        Carousel.mk.injEq, and_true, forall_eq', exists_eq', true_implies,
        slidesFrom_withoutNulls_eq_iff]

end Component

open Component

/-- Null fields in the tabs of a tab bar count as absent. Those in the images of a carousel do just
when none of them hides an address that can be used. -/
theorem resolve_withoutItemNulls (p : Props) :
    TabBar.resolve (p.withoutItemNulls "tabs") = TabBar.resolve p ∧
      (Carousel.resolve (p.withoutItemNulls "images") = Carousel.resolve p ↔
        ∀ images, p.items "images" = .ok images → (∃ m, Carousel.resolve p = .ok m) →
          ∀ item ∈ images, hidesAddress item = false) :=
  ⟨tabBar_withoutItemNulls p, carousel_withoutItemNulls_eq_iff p⟩

/-- An image whose first name for the address is null makes no slide, and one without that name
does. -/
theorem carousel_null_source :
    let p : Props := ⟨[("images", .array [.object [("src", .null),
      ("url", .string "https://a.test/1.png")]])], []⟩
    (Carousel.resolve p).toOption.map Carousel.slides = some [] ∧
      (Carousel.resolve (p.withoutItemNulls "images")).toOption.map Carousel.slides =
        some [⟨"https://a.test/1.png", "Slide 1"⟩] := by
  decide +kernel

end MiniApp

import Mathlib.Data.List.Forall2
import MiniApp.Component.Model
import MiniApp.Proofs.Number.Zero

/-!
Properties that read alike: every reader gives the same for both, or the same number. Values that
are equal up to the sign of a zero read alike, since a reader shows a number to nobody but as a
numeral, or compares it.
-/

set_option autoImplicit false

namespace MiniApp

def Except.Related {ε α β : Type} (R : α → β → Prop) : Except ε α → Except ε β → Prop
  | .error e, .error e' => e = e'
  | .ok a, .ok b => R a b
  | _, _ => False

namespace Except.Related

variable {ε α β γ δ : Type} {R : α → β → Prop} {S : γ → δ → Prop}

theorem of_eq {R : α → α → Prop} (refl : ∀ a, R a a) {x y : Except ε α} (h : x = y) :
    Related R x y := by
  subst h
  cases x with
  | error => rfl
  | ok a => exact refl a

theorem eq {x y : Except ε α} (h : Related Eq x y) : x = y := by
  cases x <;> cases y
  · exact congrArg Except.error h
  · cases h
  · cases h
  · exact congrArg Except.ok h

theorem imp {R' : α → β → Prop} {x : Except ε α} {y : Except ε β} (h : Related R x y)
    (hr : ∀ a b, R a b → R' a b) : Related R' x y := by
  cases x <;> cases y
  · exact h
  · cases h
  · cases h
  · exact hr _ _ h

theorem map {x : Except ε α} {y : Except ε β} {f : α → γ} {g : β → δ} (h : Related R x y)
    (hf : ∀ a b, R a b → S (f a) (g b)) : Related S (x.map f) (y.map g) := by
  cases x <;> cases y
  · exact h
  · cases h
  · cases h
  · exact hf _ _ h

theorem bind {x : Except ε α} {y : Except ε β} {f : α → Except ε γ} {g : β → Except ε δ}
    (h : Related R x y) (hf : ∀ a b, R a b → Related S (f a) (g b)) :
    Related S (x >>= f) (y >>= g) := by
  cases x <;> cases y
  · exact h
  · cases h
  · cases h
  · exact hf _ _ h

theorem bind_same (x : Except ε α) {f : α → Except ε γ} {g : α → Except ε δ}
    (hf : ∀ a, Related S (f a) (g a)) : Related S (x >>= f) (x >>= g) := by
  cases x with
  | error => rfl
  | ok a => exact hf a

end Except.Related

namespace Json

variable {v w : Json}

/-- The same value up to the signs of the zeros in it. -/
def Alike (v w : Json) : Prop := v = w ∨ v.agrees w = true

theorem Alike.refl (v : Json) : v.Alike v := .inl rfl

theorem Alike.kind_eq (h : v.Alike w) : v.kind = w.kind := by
  rcases h with rfl | h
  · rfl
  · cases v <;> cases w <;> first | rfl | simp [agrees] at h

theorem Alike.isNull_eq (h : v.Alike w) : v.isNull = w.isNull := by
  rcases h with rfl | h
  · rfl
  · cases v <;> cases w <;> first | rfl | simp [agrees] at h

theorem Alike.scalarText?_eq (h : v.Alike w) : v.scalarText? = w.scalarText? := by
  rcases h with rfl | h
  · rfl
  · cases v <;> cases w <;> simp only [agrees, Bool.false_eq_true, beq_iff_eq] at h
    case float.float a b => exact congrArg some (Numeral.text_congr (Double.alike_of_equals h))
    all_goals first | rw [h] | rfl

theorem Alike.stringOf?_eq (h : v.Alike w) : Props.stringOf? v = Props.stringOf? w := by
  rcases h with rfl | h
  · rfl
  · cases v <;> cases w <;> simp only [agrees, Bool.false_eq_true, beq_iff_eq] at h
    all_goals first | rfl | rw [h]

theorem forall₂_of_itemsAgree {vs ws : List Json} (h : itemsAgree vs ws = true) :
    List.Forall₂ Alike vs ws := by
  induction vs generalizing ws with
  | nil =>
    cases ws with
    | nil => exact .nil
    | cons => cases h
  | cons v vs ih =>
    cases ws with
    | nil => cases h
    | cons w ws =>
      rw [itemsAgree, Bool.and_eq_true] at h
      exact .cons (.inr h.1) (ih h.2)

theorem lookup_alike {fs gs : Fields} (h : fieldsAgree fs gs = true) (key : String) :
    Option.Rel Alike (fs.lookup key) (gs.lookup key) := by
  induction fs generalizing gs with
  | nil =>
    cases gs with
    | nil => exact .none
    | cons => cases h
  | cons f fs ih =>
    cases gs with
    | nil => cases h
    | cons g gs =>
      rw [fieldsAgree, Bool.and_eq_true, Bool.and_eq_true, beq_iff_eq] at h
      obtain ⟨⟨name, value⟩, rest⟩ := h
      rw [List.lookup_cons, List.lookup_cons, name]
      cases key == g.1 with
      | true => exact .some (.inr value)
      | false => exact ih rest

theorem bind_alike {α : Type} {o o' : Option Json} (h : Option.Rel Alike o o')
    {f : Json → Option α} (hf : ∀ v w, v.Alike w → f v = f w) : o.bind f = o'.bind f := by
  cases h with
  | none => rfl
  | some h => exact hf _ _ h

theorem or_alike {o o' p p' : Option Json} (h : Option.Rel Alike o o')
    (h' : Option.Rel Alike p p') : Option.Rel Alike (o.or p) (o'.or p') := by
  cases h with
  | none => exact h'
  | some h => exact .some h

theorem slideSource?_eq_bind (fields : Fields) : Component.slideSource? fields =
    ((fields.lookup "src").or (fields.lookup "url")).bind Props.stringOf? := by
  rw [Component.slideSource?]
  rcases (fields.lookup "src").or (fields.lookup "url") with - | ⟨- | - | - | - | - | - | -⟩ <;> rfl

section Fields

variable {fs gs : Fields} (h : fieldsAgree fs gs = true)
include h

theorem slideSource?_alike : Component.slideSource? fs = Component.slideSource? gs := by
  have found := or_alike (lookup_alike h "src") (lookup_alike h "url")
  rw [slideSource?_eq_bind, slideSource?_eq_bind, bind_alike found fun _ _ h => h.stringOf?_eq]

theorem tabField?_alike (names : List String) :
    Component.tabField? fs names = Component.tabField? gs names := by
  have texts : (fun name => (fs.lookup name).bind scalarText?) =
      fun name => (gs.lookup name).bind scalarText? := by
    funext name
    exact bind_alike (lookup_alike h name) fun _ _ h => h.scalarText?_eq
  rw [Component.tabField?, Component.tabField?, texts]

end Fields

theorem Alike.slide?_eq (h : v.Alike w) (number : Nat) :
    Component.slide? number v = Component.slide? number w := by
  rcases h with rfl | h
  · rfl
  · cases v <;> cases w <;> simp only [agrees, Bool.false_eq_true, beq_iff_eq] at h
    case object.object fs gs =>
      have alt := bind_alike (lookup_alike h "alt") fun _ _ h => h.scalarText?_eq
      rw [Component.slide?, Component.slide?, slideSource?_alike h, alt]
    all_goals first | rw [h] | rfl

theorem Alike.tab?_eq (h : v.Alike w) : Component.tab? v = Component.tab? w := by
  have text := h.scalarText?_eq
  rcases h with rfl | h
  · rfl
  · cases v <;> cases w <;> simp only [agrees, Bool.false_eq_true, beq_iff_eq] at h
    case object.object fs gs =>
      rw [Component.tab?, Component.tab?, tabField?_alike h, tabField?_alike h, tabField?_alike h]
    all_goals exact congrArg (Option.map fun label => (⟨label, none, none⟩ : Component.Tab)) text

section Items

variable {vs ws : List Json} (h : List.Forall₂ Alike vs ws)
include h

theorem filterMap_alike {α : Type} {f : Json → Option α} (hf : ∀ v w, v.Alike w → f v = f w) :
    vs.filterMap f = ws.filterMap f := by
  induction h with
  | nil => rfl
  | cons first _ ih => rw [List.filterMap_cons, List.filterMap_cons, hf _ _ first, ih]

theorem slidesFrom_alike (number : Nat) :
    Component.slidesFrom number vs = Component.slidesFrom number ws := by
  induction h generalizing number with
  | nil => rfl
  | cons first _ ih => rw [Component.slidesFrom, Component.slidesFrom, first.slide?_eq, ih]

end Items

end Json

namespace Props

inductive Reading.Related {α β : Type} (R : α → β → Prop) : Reading α → Reading β → Prop
  | found {a : α} {b : β} (h : R a b) : Related R (.found a) (.found b)
  | unusable : Related R .unusable .unusable
  | wrongShape (expected : String) : Related R (.wrongShape expected) (.wrongShape expected)

theorem Reading.Related.refl {α : Type} {R : α → α → Prop} (refl : ∀ a, R a a) (r : Reading α) :
    Related R r r := by
  cases r with
  | found a => exact .found (refl a)
  | unusable => exact .unusable
  | wrongShape expected => exact .wrongShape expected

section Readers

variable {v w : Json} (h : v.Alike w)
include h

theorem readText_alike : readText v = readText w := by
  rw [readText, readText, h.scalarText?_eq]

theorem readShownText_alike : readShownText v = readShownText w := by
  rw [readShownText, readShownText, h.scalarText?_eq]

theorem readKeyword_alike {α : Type} (words : List (String × α)) :
    readKeyword words v = readKeyword words w := by
  rw [readKeyword, readKeyword, h.scalarText?_eq]

theorem readNumber_alike : Reading.Related Double.Alike (readNumber v) (readNumber w) := by
  rcases h with rfl | h
  · exact .refl Double.Alike.refl _
  · cases v <;> cases w <;> simp only [Json.agrees, Bool.false_eq_true, beq_iff_eq] at h
    case float.float a b =>
      have same := Double.alike_of_equals h
      rw [readNumber, readNumber, same.isFinite_eq]
      split
      · exact .found same
      · exact .unusable
    case integer.integer => exact h ▸ .refl Double.Alike.refl _
    case string.string => exact h ▸ .refl Double.Alike.refl _
    all_goals exact .wrongShape "number"

theorem readBool_alike : readBool v = readBool w := by
  rcases h with rfl | h
  · rfl
  · cases v <;> cases w <;> simp only [Json.agrees, Bool.false_eq_true, beq_iff_eq] at h
    case float.float a b => rw [readBool, readBool, (Double.alike_of_equals h).isZero_eq]
    all_goals first | rw [h] | rfl

theorem readItems_alike :
    Reading.Related (List.Forall₂ Json.Alike) (readItems v) (readItems w) := by
  have same (items : List Json) : List.Forall₂ Json.Alike items items :=
    List.forall₂_same.2 fun v _ => .refl v
  rcases h with rfl | h
  · exact .refl same _
  · cases v <;> cases w <;> simp only [Json.agrees, Bool.false_eq_true, beq_iff_eq] at h
    case array.array => exact .found (Json.forall₂_of_itemsAgree h)
    case string.string => exact h ▸ .refl same _
    all_goals exact .wrongShape "array"

end Readers

/-- Whatever is read from one is read from the other, numbers up to the sign of zero. -/
structure Alike (p q : Props) : Prop where
  text : ∀ key fallback, p.text key fallback = q.text key fallback
  shownText : ∀ key, p.shownText key = q.shownText key
  bool : ∀ key fallback, p.bool key fallback = q.bool key fallback
  keyword : ∀ {α : Type} key (words : List (String × α)) fallback,
    p.keyword key words fallback = q.keyword key words fallback
  color? : ∀ key, p.color? key = q.color? key
  url? : ∀ key, p.url? key = q.url? key
  number : ∀ key fallback,
    Except.Related Double.Alike (p.number key fallback) (q.number key fallback)
  items : ∀ key, Except.Related (List.Forall₂ Json.Alike) (p.items key) (q.items key)

section Values

variable {p q : Props} (h : ∀ key, List.Forall₂ Json.Alike (p.values key) (q.values key))
include h

theorem read_alike {α : Type} {R : α → α → Prop} {reader : Json → Reading α}
    (hr : ∀ v w, v.Alike w → Reading.Related R (reader v) (reader w)) {fallback : α}
    (hf : R fallback fallback) (key : String) :
    Except.Related R (p.read key reader fallback) (q.read key reader fallback) := by
  rw [read, read]
  have values := h key
  generalize p.values key = vs at values ⊢
  generalize q.values key = ws at values ⊢
  induction values with
  | nil => exact hf
  | @cons v w vs ws first rest ih =>
    rw [firstUsable, firstUsable, first.kind_eq]
    have reading := hr v w first
    revert reading
    generalize reader v = r
    generalize reader w = r'
    intro reading
    cases reading with
    | found h => exact h
    | unusable => exact ih
    | wrongShape => rfl

theorem read_eq {α : Type} {reader : Json → Reading α}
    (hr : ∀ v w, v.Alike w → reader v = reader w) (key : String) (fallback : α) :
    p.read key reader fallback = q.read key reader fallback := by
  refine Except.Related.eq (read_alike h (fun v w hvw => ?_) rfl key)
  rw [hr v w hvw]
  exact .refl (fun _ => rfl) _

theorem findSome?_values {α : Type} {f : Json → Option α} (hf : ∀ v w, v.Alike w → f v = f w)
    (key : String) : (p.values key).findSome? f = (q.values key).findSome? f := by
  have values := h key
  generalize p.values key = vs at values ⊢
  generalize q.values key = ws at values ⊢
  induction values with
  | nil => rfl
  | cons first _ ih => rw [List.findSome?_cons, List.findSome?_cons, hf _ _ first, ih]

theorem alike_of_values : p.Alike q where
  text := read_eq h fun _ _ => readText_alike
  shownText key := read_eq h (fun _ _ => readShownText_alike) key none
  bool := read_eq h fun _ _ => readBool_alike
  keyword key words := read_eq h (fun _ _ h => readKeyword_alike h words) key
  color? := findSome?_values h fun _ _ h => by rw [h.stringOf?_eq]
  url? := findSome?_values h fun _ _ h => by rw [h.stringOf?_eq]
  number key fallback := read_alike h (fun _ _ => readNumber_alike) (.refl fallback) key
  items := read_alike h (fun _ _ => readItems_alike) .nil

end Values

/-- Fields that are equal as values read alike over the same defaults. -/
theorem alike_of_fieldsAgree {fs gs : Fields} (h : Json.fieldsAgree fs gs = true)
    (defaults : Fields) : Alike ⟨fs, defaults⟩ ⟨gs, defaults⟩ := by
  apply alike_of_values
  intro key
  have explicit : List.Forall₂ Json.Alike (fs.lookup key).toList (gs.lookup key).toList := by
    have found := Json.lookup_alike h key
    generalize fs.lookup key = v? at found ⊢
    generalize gs.lookup key = w? at found ⊢
    cases found with
    | none => exact .nil
    | some h => exact .cons h .nil
  have standard :
      List.Forall₂ Json.Alike (defaults.lookup key).toList (defaults.lookup key).toList :=
    List.forall₂_same.2 fun v _ => .refl v
  refine List.rel_filter (fun v w h => ?_) (List.rel_append explicit standard)
  exact iff_of_eq (congrArg (fun null => (!null) = true) h.isNull_eq)

end Props

end MiniApp

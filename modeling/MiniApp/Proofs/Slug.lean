import Mathlib.Data.List.Chain
import MiniApp.Proofs.Text.Runs
import MiniApp.Slug

set_option autoImplicit false

namespace MiniApp

namespace Text

variable {p : Char → Bool} {cs : List Char}

theorem strip_infix (p : Char → Bool) (cs : List Char) : strip p cs <:+: cs := by
  rw [strip_eq_rdropWhile]
  exact (List.rdropWhile_prefix p _).isInfix.trans (List.dropWhile_suffix p).isInfix

theorem head?_strip {c : Char} (h : (strip p cs).head? = some c) : p c = false := by
  have first := List.head?_dropWhile_not p (strip p cs)
  rwa [dropWhile_strip, h] at first

theorem getLast?_strip {c : Char} (h : (strip p cs).getLast? = some c) : p c = false := by
  have last := List.head?_dropWhile_not p (cs.dropWhile p).reverse
  rw [strip, List.getLast?_reverse] at h
  rwa [h] at last

theorem forall_ne_nil_of_isChain (parted : cs.IsChain fun a b => ¬(p a = true ∧ p b = true))
    (last : ∀ c ∈ cs.getLast?, p c = false) :
    (∀ piece ∈ (splitWhere p cs).tail, piece ≠ []) ∧
      ((∃ c ∈ cs.head?, p c = false) → ∀ piece ∈ splitWhere p cs, piece ≠ []) := by
  induction cs with
  | nil => simp [splitWhere_nil]
  | cons c cs ih =>
    rw [List.isChain_cons] at parted
    have last' : ∀ d ∈ cs.getLast?, p d = false := fun d hd =>
      last d (List.mem_getLast?_cons hd)
    obtain ⟨tail, whole⟩ := ih parted.2 last'
    rw [splitWhere_cons]
    split
    case isTrue parts =>
      have next : ∃ d ∈ cs.head?, p d = false := by
        cases cs with
        | nil => exact absurd parts (Bool.eq_false_iff.1 (last c rfl))
        | cons d cs => exact ⟨d, rfl, Bool.eq_false_iff.2 fun hd => parted.1 d rfl ⟨parts, hd⟩⟩
      exact ⟨whole next, fun ⟨d, hd, h⟩ => by simp_all⟩
    case isFalse =>
      obtain ⟨piece, rest, pieces⟩ := List.exists_cons_of_ne_nil (splitWhere_ne_nil p cs)
      rw [pieces] at tail ⊢
      exact ⟨tail, fun _ => List.forall_mem_cons.2 ⟨List.cons_ne_nil c piece, tail⟩⟩

theorem forall_mem_splitWhere (p : Char → Bool) (cs : List Char) :
    ∀ piece ∈ splitWhere p cs, ∀ c ∈ piece, c ∈ cs ∧ p c = false := by
  induction cs with
  | nil => simp [splitWhere_nil]
  | cons c cs ih =>
    obtain ⟨piece, rest, pieces⟩ := List.exists_cons_of_ne_nil (splitWhere_ne_nil p cs)
    have kept : ∀ piece ∈ splitWhere p cs, ∀ d ∈ piece, d ∈ c :: cs ∧ p d = false :=
      fun piece hp d hd => (ih piece hp d hd).imp (List.mem_cons_of_mem c) id
    rw [splitWhere_cons]
    split
    case isTrue => exact List.forall_mem_cons.2 ⟨List.forall_mem_nil _, kept⟩
    case isFalse own =>
      rw [pieces] at kept ⊢
      rw [List.forall_mem_cons] at kept ⊢
      exact ⟨List.forall_mem_cons.2 ⟨⟨List.mem_cons_self, Bool.eq_false_iff.2 own⟩, kept.1⟩, kept.2⟩

theorem utf8ByteSize_ofList (h : ∀ c ∈ cs, c.utf8Size = 1) :
    (String.ofList cs).utf8ByteSize = cs.length := by
  induction cs with
  | nil => rfl
  | cons c cs ih =>
    rw [List.forall_mem_cons] at h
    rw [String.ofList_cons, String.utf8ByteSize_append, String.utf8ByteSize_singleton, h.1, ih h.2,
      List.length_cons, Nat.add_comm]

theorem isValid_ofList (h : ∀ c ∈ cs, c.utf8Size = 1) {byte : Nat} (within : byte ≤ cs.length) :
    String.Pos.Raw.IsValid (String.ofList cs) ⟨byte⟩ := by
  refine String.Pos.Raw.isValid_ofList.2 ⟨byte, ?_⟩
  rw [utf8ByteSize_ofList fun c hc => h c (List.mem_of_mem_take hc), List.length_take,
    Nat.min_eq_left within]

end Text

namespace Slug

def IsSlugChar (c : Char) : Prop := isNameChar c = true ∨ c = '-'

instance (c : Char) : Decidable (IsSlugChar c) := inferInstanceAs (Decidable (_ ∨ _))

theorem IsSlugChar.ne {c d : Char} (h : IsSlugChar c) (hd : ¬ IsSlugChar d) : c ≠ d :=
  fun same => hd (same ▸ h)

theorem isNameChar_iff (c : Char) :
    isNameChar c = true ↔ ('a' ≤ c ∧ c ≤ 'z') ∨ ('0' ≤ c ∧ c ≤ '9') := by
  have classes : isNameChar c = (decide ('a' ≤ c) && decide (c ≤ 'z') ||
      decide ('0' ≤ c) && decide (c ≤ '9')) := rfl
  rw [classes]
  simp only [Bool.or_eq_true, Bool.and_eq_true, decide_eq_true_eq]

theorem IsSlugChar.utf8Size_eq {c : Char} (h : IsSlugChar c) : c.utf8Size = 1 := by
  rw [Char.utf8Size_eq_one_iff, UInt32.le_iff_toNat_le]
  change c.toNat ≤ 127
  rcases h with named | rfl
  · have alphanum : c.isAlphanum = true := by
      rw [isNameChar, Bool.or_eq_true] at named
      exact named.elim Text.isAlphanum_of_isLower Text.isAlphanum_of_isDigit
    rw [Text.isAlphanum_iff] at alphanum
    omega
  · decide

/-- A name that is held backwards while characters are added to it. -/
structure IsDraft (name : List Char) : Prop where
  chars : ∀ c ∈ name, IsSlugChar c
  parted : name.IsChain fun a b => ¬((a == '-') = true ∧ (b == '-') = true)
  first : ∀ c ∈ name.getLast?, isNameChar c = true

theorem IsDraft.addChar {name : List Char} (h : IsDraft name) (c : Char) :
    IsDraft (addChar name c) := by
  rw [Slug.addChar.eq_def]
  split
  case isTrue named =>
    have other : (c == '-') = false :=
      beq_false_of_ne fun same => absurd (same ▸ named) (by decide)
    refine ⟨List.forall_mem_cons.2 ⟨.inl named, h.chars⟩,
      List.isChain_cons.2 ⟨fun d _ => by simp [other], h.parted⟩, ?_⟩
    cases name with
    | nil => simpa using named
    | cons d name => simpa using h.first
  case isFalse =>
    split
    · exact h
    · next d name =>
      split
      · exact h
      · next other =>
        refine ⟨List.forall_mem_cons.2 ⟨.inr rfl, h.chars⟩,
          List.isChain_cons.2 ⟨?_, h.parted⟩, by simpa using h.first⟩
        rintro _ ⟨⟩ ⟨-, hyphen⟩
        exact other (beq_iff_eq.1 hyphen)

theorem isDraft_foldl (cs : List Char) {name : List Char} (h : IsDraft name) :
    IsDraft (cs.foldl Slug.addChar name) := by
  induction cs generalizing name with
  | nil => exact h
  | cons c cs ih => exact ih (h.addChar c)

theorem isDraft_squeeze (cs : List Char) : IsDraft (squeeze cs).reverse := by
  rw [squeeze, List.reverse_reverse]
  exact isDraft_foldl cs ⟨List.forall_mem_nil _, .nil, by simp⟩

theorem forall_mem_squeeze (cs : List Char) : ∀ d ∈ squeeze cs, IsSlugChar d := fun d hd =>
  (isDraft_squeeze cs).chars d (List.mem_reverse.2 hd)

theorem isChain_squeeze (cs : List Char) :
    (squeeze cs).IsChain fun a b => ¬((a == '-') = true ∧ (b == '-') = true) := by
  have parted := (isDraft_squeeze cs).parted
  rw [List.isChain_reverse] at parted
  exact parted.imp fun a b h => fun both => h both.symm

theorem ofKebab_ne_nil (kebab : List Char) : (ofKebab kebab).toList ≠ [] := by
  rw [ofKebab]
  split
  case isTrue => decide
  case isFalse h => rwa [String.toList_ofList, ne_eq, ← List.isEmpty_iff]

theorem forall_mem_ofKebab (kebab : List Char) : ∀ c ∈ (ofKebab kebab).toList, IsSlugChar c := by
  rw [ofKebab]
  split
  case isTrue =>
    have named : fallback.toList.all (fun c => decide (IsSlugChar c)) = true := by decide
    exact fun c hc => of_decide_eq_true (List.all_eq_true.1 named c hc)
  case isFalse =>
    intro c hc
    rw [String.toList_ofList] at hc
    exact forall_mem_squeeze kebab c (List.take_subset _ _ ((Text.strip_infix _ _).subset hc))

/-- Words of small letters and digits with one hyphen between each two of them. -/
def IsName (name : List Char) : Prop :=
  ∀ word ∈ Text.splitWhere (· == '-') name,
    word ≠ [] ∧ ∀ c ∈ word, ('a' ≤ c ∧ c ≤ 'z') ∨ ('0' ≤ c ∧ c ≤ '9')

theorem isName_of_isChain {name : List Char} (shows : name ≠ [])
    (chars : ∀ c ∈ name, IsSlugChar c)
    (parted : name.IsChain fun a b => ¬((a == '-') = true ∧ (b == '-') = true))
    (first : ∀ c ∈ name.head?, (c == '-') = false)
    (last : ∀ c ∈ name.getLast?, (c == '-') = false) : IsName name := by
  obtain ⟨c, hc⟩ := Option.isSome_iff_exists.1 (List.isSome_head?.2 shows)
  intro word hw
  refine ⟨(Text.forall_ne_nil_of_isChain parted last).2 ⟨c, hc, first c hc⟩ word hw, ?_⟩
  intro d hd
  obtain ⟨member, other⟩ := Text.forall_mem_splitWhere _ name word hw d hd
  rw [← isNameChar_iff]
  exact (chars d member).resolve_right fun hyphen => by simp [hyphen] at other

theorem isName_strip (kebab : List Char) (most : Nat)
    (shows : Text.strip (· == '-') ((squeeze kebab).take most) ≠ []) :
    IsName (Text.strip (· == '-') ((squeeze kebab).take most)) := by
  have inside : Text.strip (· == '-') ((squeeze kebab).take most) <:+: squeeze kebab :=
    (Text.strip_infix _ _).trans (List.take_prefix _ _).isInfix
  have parted := List.IsChain.infix (isChain_squeeze kebab) inside
  exact isName_of_isChain shows (fun c hc => forall_mem_squeeze kebab c (inside.subset hc)) parted
    (fun c => Text.head?_strip) fun c => Text.getLast?_strip

theorem isName_ofKebab (kebab : List Char) : IsName (ofKebab kebab).toList := by
  rw [ofKebab]
  split
  case isTrue =>
    have all : fallback.toList.all (decide <| IsSlugChar ·) = true := by decide
    have first : fallback.toList.head? = some 'm' := by decide
    have last : fallback.toList.getLast? = some 'p' := by decide
    refine isName_of_isChain (by decide) ?_ (by decide) ?_ ?_
    · exact fun c hc => of_decide_eq_true (List.all_eq_true.1 all c hc)
    · rw [first]
      rintro c ⟨⟩
      decide
    · rw [last]
      rintro c ⟨⟩
      decide
  case isFalse shows =>
    rw [String.toList_ofList]
    exact isName_strip kebab maxLength fun nothing => shows (by rw [nothing]; rfl)

theorem length_ofKebab_le (kebab : List Char) : (ofKebab kebab).length ≤ maxLength := by
  rw [ofKebab]
  split
  case isTrue => decide
  case isFalse =>
    rw [String.length_ofList]
    exact (Text.strip_infix _ _).length_le.trans (List.length_take_le ..)

theorem foldl_addChar_eq_nil_iff (cs name : List Char) :
    cs.foldl addChar name = [] ↔ name = [] ∧ ∀ c ∈ cs, isNameChar c = false := by
  induction cs generalizing name with
  | nil => simp
  | cons c cs ih =>
    have one : addChar name c = [] ↔ name = [] ∧ isNameChar c = false := by
      rw [addChar.eq_def]
      cases isNameChar c <;> cases name <;> simp
      split <;> simp
    rw [List.foldl_cons, ih, one, List.forall_mem_cons, and_assoc]

theorem squeeze_eq_nil_iff (kebab : List Char) :
    squeeze kebab = [] ↔ ∀ c ∈ kebab, isNameChar c = false := by
  rw [squeeze, List.reverse_eq_nil_iff, foldl_addChar_eq_nil_iff]
  simp

theorem ofKebab_cases (kebab : List Char) :
    (∀ c ∈ kebab, isNameChar c = false) ∧ ofKebab kebab = fallback ∨
      (∃ c ∈ kebab, isNameChar c = true) ∧ (ofKebab kebab).toList <+: squeeze kebab := by
  have draft := isDraft_squeeze kebab
  cases start : squeeze kebab with
  | nil =>
    refine .inl ⟨(squeeze_eq_nil_iff kebab).1 start, ?_⟩
    rw [ofKebab, start]
    rfl
  | cons c rest =>
    have usable : ∃ d ∈ kebab, isNameChar d = true := by
      by_contra none
      have empty := (squeeze_eq_nil_iff kebab).2 (by simpa using none)
      rw [start] at empty
      cases empty
    have named : (c == '-') = false := by
      have first := draft.first c (by simp [start])
      exact beq_false_of_ne fun same => absurd (same ▸ first) (by decide)
    refine .inr ⟨usable, ?_⟩
    have kept : Text.strip (· == '-') ((c :: rest).take maxLength) =
        ((c :: rest).take maxLength).rdropWhile (· == '-') := by
      rw [Text.strip_eq_rdropWhile, maxLength, List.take_succ_cons,
        List.dropWhile_cons, if_neg (Bool.eq_false_iff.1 named)]
    have shows : ((c :: rest).take maxLength).rdropWhile (· == '-') ≠ [] := by
      rw [ne_eq, List.rdropWhile_eq_nil_iff]
      exact fun all => Bool.eq_false_iff.1 named (all c (by simp [maxLength]))
    rw [ofKebab, start, kept, if_neg (by simpa using shows), String.toList_ofList]
    exact (List.rdropWhile_prefix _ _).trans (List.take_prefix _ _)

end Slug

namespace ArchivePath

theorem componentFault?_eq_none_of_slug {component : List Char} (shows : component ≠ [])
    (h : ∀ c ∈ component, Slug.IsSlugChar c) : componentFault? component = none := by
  have noDot : '.' ∉ component := fun hc => absurd (h _ hc) (by decide)
  rw [componentFault?, if_neg shows, if_neg, if_neg]
  · rintro rfl
    exact noDot List.mem_cons_self
  · rintro rfl
    exact noDot List.mem_cons_self

theorem components_ofKebab (kebab : List Char) :
    components (Slug.ofKebab kebab).toList = [(Slug.ofKebab kebab).toList] :=
  Text.splitWhere_of_forall fun c hc => by
    simpa using (Slug.forall_mem_ofKebab kebab c hc).ne (by decide)

theorem fault?_ofKebab (kebab : List Char) : fault? (Slug.ofKebab kebab) = none := by
  have chars := Slug.forall_mem_ofKebab kebab
  rw [fault?, faultIn?_eq_none_iff, components_ofKebab, List.forall_mem_singleton]
  exact ⟨fun hc => absurd (chars _ hc) (by decide), fun hc => absurd (chars _ hc) (by decide),
    componentFault?_eq_none_of_slug (Slug.ofKebab_ne_nil kebab) chars⟩

theorem fault?_ofName (displayName : String) : fault? (Slug.ofName displayName) = none := by
  rw [Slug.ofName]
  exact fault?_ofKebab _

end ArchivePath

namespace Slug

/-- A name that registries accept and that stands for one folder of an archive. -/
structure IsPackageName (name : String) : Prop where
  short : name.length ≤ maxLength
  words : IsName name.toList
  sound : ArchivePath.fault? name = none
  folder : ArchivePath.components name.toList = [name.toList]

theorem isPackageName_ofKebab (kebab : List Char) : IsPackageName (ofKebab kebab) where
  short := length_ofKebab_le kebab
  words := isName_ofKebab kebab
  sound := ArchivePath.fault?_ofKebab kebab
  folder := ArchivePath.components_ofKebab kebab

/-- Whatever the display name is, and whatever its words are taken to be, the package name is one;
where it is cut off, no character is cut in two; and the fallback stands in just when nothing is
usable. -/
theorem package_names_accepted (displayName : String) (kebab : List Char) :
    IsPackageName (ofName displayName) ∧ IsPackageName (ofKebab kebab) ∧
      (∀ byte ≤ (String.ofList (squeeze kebab)).utf8ByteSize,
        String.Pos.Raw.IsValid (String.ofList (squeeze kebab)) ⟨byte⟩) ∧
      (String.ofList ((squeeze kebab).take maxLength)).utf8ByteSize =
        min maxLength (String.ofList (squeeze kebab)).utf8ByteSize ∧
      ((∀ c ∈ kebab, isNameChar c = false) ∧ ofKebab kebab = fallback ∨
        (∃ c ∈ kebab, isNameChar c = true) ∧ (ofKebab kebab).toList <+: squeeze kebab) := by
  have single : ∀ c ∈ squeeze kebab, c.utf8Size = 1 := fun c hc =>
    (forall_mem_squeeze kebab c hc).utf8Size_eq
  have bytes := Text.utf8ByteSize_ofList single
  refine ⟨isPackageName_ofKebab _, isPackageName_ofKebab kebab, fun byte within => ?_, ?_,
    ofKebab_cases kebab⟩
  · exact Text.isValid_ofList single (bytes ▸ within)
  · rw [Text.utf8ByteSize_ofList fun c hc => single c (List.mem_of_mem_take hc), bytes,
      List.length_take]

end Slug

end MiniApp

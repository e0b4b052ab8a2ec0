import MiniApp.Proofs.Slug

/-!
# Archive paths on disk

The systems that an archive is unpacked on disagree about paths: some part them at backslashes too,
some know drives, and all of them follow references to a parent. A sound path is read in one way by
all of them. It leads from the folder that the archive is unpacked in to a place below it, through
places that are never outside of it, and no other sound path leads there.
-/

set_option autoImplicit false

namespace MiniApp

/-- A place on a disk: the directories on the way to it from the top of a drive. -/
structure Location where
  drive : Option Char
  dirs : List (List Char)
deriving DecidableEq

namespace Location

def isSeparator (c : Char) : Bool := c == '/' || c == '\\'

/-- Any character before a colon is taken for the name of a drive. -/
def drive? : List Char → Option (Char × List Char)
  | drive :: ':' :: name => some (drive, name)
  | _ => none

/-- Into a directory, out of one, or nowhere. At the top there is no way out. -/
def step (l : Location) (name : List Char) : Location :=
  if name = [] ∨ name = ['.'] then l
  else if name = ['.', '.'] then { l with dirs := l.dirs.dropLast }
  else { l with dirs := l.dirs ++ [name] }

/-- Follows one component of a path. A drive starts anew at its top, wherever it is named. -/
def enter (l : Location) (component : List Char) : Location :=
  match drive? component with
  | some (drive, name) => step ⟨some drive, []⟩ name
  | none => l.step component

def start (root : Location) (path : List Char) : Location :=
  if path.head?.any isSeparator then { root with dirs := [] } else root

/-- All places on the way, the first and the last of them included. -/
def visits (l : Location) : List (List Char) → List Location
  | [] => [l]
  | c :: cs => l :: visits (l.enter c) cs

/-- The places that a path goes through when it is followed from a folder. -/
def trail (root : Location) (path : String) : List Location :=
  (root.start path.toList).visits (Text.splitWhere isSeparator path.toList)

def resolve (root : Location) (path : String) : Location :=
  (Text.splitWhere isSeparator path.toList).foldl enter (root.start path.toList)

def Within (root l : Location) : Prop := l.drive = root.drive ∧ root.dirs <+: l.dirs

def Below (root l : Location) : Prop := root.Within l ∧ l ≠ root

def descend (l : Location) (names : List (List Char)) : Location :=
  { l with dirs := l.dirs ++ names }

theorem descend_nil (l : Location) : l.descend [] = l := by
  rw [descend, List.append_nil]

theorem descend_descend (l : Location) (names names' : List (List Char)) :
    (l.descend names).descend names' = l.descend (names ++ names') := by
  rw [descend, descend, descend, List.append_assoc]

theorem descend_inj {l : Location} {names names' : List (List Char)} :
    l.descend names = l.descend names' ↔ names = names' := by
  simp [descend]

theorem within_descend (root : Location) (names : List (List Char)) :
    root.Within (root.descend names) := ⟨rfl, List.prefix_append _ _⟩

theorem below_descend (root : Location) {names : List (List Char)} (h : names ≠ []) :
    root.Below (root.descend names) := by
  refine ⟨root.within_descend names, fun same => h ?_⟩
  rwa [← descend_inj (l := root), descend_nil]

end Location

namespace Text

theorem splitWhere_congr {p q : Char → Bool} {cs : List Char} (h : ∀ c ∈ cs, p c = q c) :
    splitWhere p cs = splitWhere q cs := by
  induction cs with
  | nil => rfl
  | cons c cs ih =>
    rw [List.forall_mem_cons] at h
    rw [splitWhere_cons, splitWhere_cons, h.1, ih h.2]

theorem intercalate_splitWhere (separator : Char) (cs : List Char) :
    [separator].intercalate (splitWhere (· == separator) cs) = cs := by
  induction cs with
  | nil => rfl
  | cons c cs ih =>
    obtain ⟨piece, rest, pieces⟩ := List.exists_cons_of_ne_nil (splitWhere_ne_nil (· == separator) cs)
    rw [pieces] at ih
    rw [splitWhere_cons, pieces]
    split
    case isTrue parts =>
      rw [eq_of_beq parts, List.intercalate_cons_cons, ih]
      rfl
    case isFalse =>
      cases rest <;> simp_all [List.intercalate_cons_cons]

theorem splitWhere_injective (separator : Char) :
    Function.Injective (splitWhere (· == separator)) :=
  Function.LeftInverse.injective (intercalate_splitWhere separator)

end Text

namespace ArchivePath

open Location (isSeparator)

/-- A component that every system takes for the name of a directory or file. -/
structure IsName (component : List Char) : Prop where
  sound : componentFault? component = none
  noDrive : ':' ∉ component

theorem IsName.step {component : List Char} (h : IsName component) (l : Location) :
    l.step component = l.descend [component] := by
  have sound := h.sound
  rw [componentFault?] at sound
  split_ifs at sound with empty parent current
  rw [Location.step, if_neg (not_or.2 ⟨empty, current⟩), if_neg parent, Location.descend]

theorem IsName.enter {component : List Char} (h : IsName component) (l : Location) :
    l.enter component = l.descend [component] := by
  have noDrive : Location.drive? component = none := by
    unfold Location.drive?
    split
    · exact absurd (List.mem_cons_of_mem _ List.mem_cons_self) h.noDrive
    · rfl
  rw [Location.enter, noDrive]
  exact h.step l

section Names

variable {names : List (List Char)} (sound : ∀ name ∈ names, IsName name)
include sound

theorem foldl_enter (l : Location) : names.foldl Location.enter l = l.descend names := by
  induction names generalizing l with
  | nil => exact l.descend_nil.symm
  | cons name names ih =>
    rw [List.forall_mem_cons] at sound
    rw [List.foldl_cons, sound.1.enter, ih sound.2, Location.descend_descend, List.singleton_append]

theorem exists_of_mem_visits {l place : Location} (h : place ∈ l.visits names) :
    ∃ passed, passed <+: names ∧ place = l.descend passed := by
  induction names generalizing l with
  | nil => exact ⟨[], List.prefix_rfl, by rw [List.mem_singleton.1 h, Location.descend_nil]⟩
  | cons name names ih =>
    rw [List.forall_mem_cons] at sound
    rw [Location.visits, List.mem_cons] at h
    rcases h with rfl | h
    · exact ⟨[], List.nil_prefix, (Location.descend_nil _).symm⟩
    · obtain ⟨passed, before, rfl⟩ := ih sound.2 h
      refine ⟨name :: passed, List.cons_prefix_cons.2 ⟨rfl, before⟩, ?_⟩
      rw [sound.1.enter, Location.descend_descend, List.singleton_append]

end Names

section Sound

variable {path : String} (sound : fault? path = none)
include sound

theorem isName_of_sound : ∀ name ∈ components path.toList, IsName name := by
  obtain ⟨colon, -, names⟩ := (faultIn?_eq_none_iff _).1 sound
  intro name hn
  exact ⟨names name hn, fun hc => colon (Text.forall_mem_splitWhere _ _ name hn _ hc).1⟩

theorem splitWhere_isSeparator :
    Text.splitWhere isSeparator path.toList = components path.toList := by
  obtain ⟨-, back, -⟩ := (faultIn?_eq_none_iff _).1 sound
  refine Text.splitWhere_congr fun c hc => ?_
  have other : (c == '\\') = false := beq_eq_false_iff_ne.2 fun eq => back (eq ▸ hc)
  rw [isSeparator, other, Bool.or_false]

theorem start_of_sound (root : Location) : root.start path.toList = root := by
  obtain ⟨-, back, names⟩ := (faultIn?_eq_none_iff _).1 sound
  refine if_neg ?_
  cases first : path.toList with
  | nil => exact Bool.false_ne_true
  | cons c cs =>
    rw [first] at back names
    have notBack : c ≠ '\\' := fun eq => back (eq ▸ List.mem_cons_self)
    -- A slash in front would leave an empty component before it.
    have notSlash : c ≠ '/' := by
      rintro rfl
      exact absurd (names [] List.mem_cons_self) (Option.some_ne_none _)
    simp [isSeparator, notBack, notSlash]

theorem resolve_of_sound (root : Location) :
    root.resolve path = root.descend (components path.toList) := by
  rw [Location.resolve, start_of_sound sound, splitWhere_isSeparator sound,
    foldl_enter (isName_of_sound sound)]

theorem below_resolve (root : Location) : root.Below (root.resolve path) := by
  rw [resolve_of_sound sound]
  exact root.below_descend (Text.splitWhere_ne_nil _ _)

theorem within_of_mem_trail {root place : Location} (h : place ∈ root.trail path) :
    root.Within place := by
  rw [Location.trail, start_of_sound sound, splitWhere_isSeparator sound] at h
  obtain ⟨passed, -, rfl⟩ := exists_of_mem_visits (isName_of_sound sound) h
  exact root.within_descend passed

end Sound

theorem resolve_inj {root : Location} {path path' : String} (sound : fault? path = none)
    (sound' : fault? path' = none) : root.resolve path = root.resolve path' ↔ path = path' := by
  rw [resolve_of_sound sound, resolve_of_sound sound', Location.descend_inj, components, components,
    (Text.splitWhere_injective '/').eq_iff, String.toList_inj]

/-- Sound paths cannot escape or alias. From any folder, a sound path leads to a place strictly below
it and never out of it on the way, and different sound paths lead to different places; a path put
behind a folder and a slash is sound exactly when both of them are. -/
theorem extraction_contained :
    (∀ (root : Location) (path : String), fault? path = none →
      root.Below (root.resolve path) ∧ ∀ place ∈ root.trail path, root.Within place) ∧
    (∀ (root : Location) (path path' : String), fault? path = none → fault? path' = none →
      path ≠ path' → root.resolve path ≠ root.resolve path') ∧
    ∀ folder path : String,
      fault? (folder ++ "/" ++ path) = none ↔ fault? folder = none ∧ fault? path = none :=
  ⟨fun root _ sound => ⟨below_resolve sound root, fun _ h => within_of_mem_trail sound h⟩,
    fun _ _ _ sound sound' apart same => apart ((resolve_inj sound sound').1 same),
    fault?_join_eq_none_iff⟩

theorem extraction_contained_app :
    fault? "app/index.html" = none ∧ fault? "app/src/App.tsx" = none ∧
      ((Location.mk (some 'C') [['s']]).Below ((Location.mk (some 'C') [['s']]).resolve "app/index.html") ∧
        ∀ place ∈ (Location.mk (some 'C') [['s']]).trail "app/index.html",
          (Location.mk (some 'C') [['s']]).Within place) ∧
      (Location.mk (some 'C') [['s']]).resolve "app/index.html" ≠
        (Location.mk (some 'C') [['s']]).resolve "app/src/App.tsx" := by
  have sound : fault? "app/index.html" = none := by decide
  have sound' : fault? "app/src/App.tsx" = none := by decide
  obtain ⟨inside, apart, -⟩ := extraction_contained
  exact ⟨sound, sound', inside _ _ sound, apart _ _ _ sound sound' (by decide)⟩

example : (⟨some 'C', [['s']]⟩ : Location).resolve "a/..\\../b" = ⟨some 'C', [['b']]⟩ ∧
    (⟨some 'C', [['s']]⟩ : Location).resolve "D:\\b" = ⟨some 'D', [['b']]⟩ ∧
    (⟨some 'C', [['s']]⟩ : Location).resolve "/b" = ⟨some 'C', [['b']]⟩ := by
  decide

end ArchivePath

end MiniApp

import MiniApp.Proofs.Color
import MiniApp.Proofs.Markup.Outline
import MiniApp.Proofs.Number.Numeral
import MiniApp.Proofs.Text.Cut

set_option autoImplicit false

namespace MiniApp.Markup

open Sanitize (IsValue forbidden)

section Declarations

def declaration? (cs : List Char) : Option (String × String) :=
  (Text.cut? [':'] cs).map fun r => (String.ofList r.1, String.ofList r.2)

def declared? (value : String) : Option (List (String × String)) :=
  (Text.splitWhere (· == ';') value.toList).mapM declaration?

/-- The styles of the start tag that makes up a text. -/
def stylesOf? (text : String) : Option (List (String × String)) :=
  match Scanner.scan (Parse.step false) .text text.toList with
  | some (.text, [.opening tag]) => (interpret tag).bind fun start =>
    match start.styles with
    | none => some []
    | some value => declared? value
  | _ => none

structure Declares (s : String × String) : Prop where
  name : ';' ∉ s.1.toList ∧ ':' ∉ s.1.toList
  value : IsValue s.2

def declaration (s : String × String) : String := s.1 ++ ":" ++ s.2

theorem declaration?_declaration {s : String × String} (h : Declares s) :
    declaration? (declaration s).toList = some s := by
  have parts : (declaration s).toList = s.1.toList ++ ([':'] ++ s.2.toList) := by simp [declaration]
  have passes : Text.Passes [':'] s.1.toList := Text.passes_of_notMem h.name.2
  rw [declaration?, parts, passes.cut?_append (by decide), Option.map_some, String.ofList_toList,
    String.ofList_toList]

theorem splitWhere_joined {parts : List String} (shows : parts ≠ [])
    (whole : ∀ part ∈ parts, ';' ∉ part.toList) :
    Text.splitWhere (· == ';') (";".intercalate parts).toList = parts.map String.toList := by
  have alone {part : String} (h : ';' ∉ part.toList) :
      Text.splitWhere (· == ';') part.toList = [part.toList] :=
    Text.splitWhere_of_forall fun c hc => beq_eq_false_iff_ne.2 fun same => h (same ▸ hc)
  induction parts with
  | nil => exact absurd rfl shows
  | cons part parts ih =>
    rw [List.forall_mem_cons] at whole
    cases parts with
    | nil => rw [String.intercalate_singleton, alone whole.1, List.map_singleton]
    | cons next parts =>
      have joined : (";".intercalate (part :: next :: parts)).toList =
          part.toList ++ ';' :: (";".intercalate (next :: parts)).toList := by
        rw [String.intercalate_cons_cons]
        simp
      rw [joined, Text.splitWhere_append_cons rfl, alone whole.1, ih (List.cons_ne_nil _ _) whole.2]
      rfl

theorem declared?_joined {styles : List (String × String)} (shows : styles ≠ [])
    (h : ∀ s ∈ styles, Declares s) :
    declared? (";".intercalate (styles.map declaration)) = some styles := by
  have whole : ∀ part ∈ styles.map declaration, ';' ∉ part.toList := by
    refine List.forall_mem_map.2 fun s hs => ?_
    have value : ';' ∉ s.2.toList := fun mark => (h s hs).value ';' mark (by decide)
    simpa [declaration] using ⟨(h s hs).name.1, value⟩
  have each : (styles.map fun s => (declaration s).toList).mapM declaration? = some styles := by
    clear whole shows
    induction styles with
    | nil => rfl
    | cons s styles ih =>
      rw [List.forall_mem_cons] at h
      rw [List.map_cons, List.mapM_cons, declaration?_declaration h.1, ih h.2]
      rfl
  rw [declared?, splitWhere_joined (by simpa using shows) whole, List.map_map]
  exact each

theorem stylesOf?_opening {h : Head} (plain : PlainHead h) (styles : ∀ s ∈ h.styles, Declares s) :
    stylesOf? (opening h ++ ">") = some h.styles := by
  have opened : Scanner.scan (Parse.step false) .text (opening h ++ ">").toList =
      some (.text, [.opening (language.tag h)]) := takes_opening plain
  rw [stylesOf?, opened]
  simp only [interpret_tag plain, Option.bind_some]
  rw [start, declarations?]
  cases empty : h.styles with
  | nil => rfl
  | cons s rest => exact declared?_joined (List.cons_ne_nil s rest) (empty ▸ styles)

end Declarations

end MiniApp.Markup

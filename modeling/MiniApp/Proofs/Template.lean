import MiniApp.Template

set_option autoImplicit false

namespace MiniApp.Template

def isPlace : Piece → Bool
  | .value _ | .json _ => true
  | _ => false

def isFlat : Piece → Bool
  | .text _ => true
  | p => isPlace p

def fixedTexts : List Piece → List String
  | [] => [""]
  | .text s :: ps => (fixedTexts ps).modifyHead (s ++ ·)
  | _ :: ps => "" :: fixedTexts ps

/-- Texts with values between them. -/
def weave : List String → List String → String
  | [], _ => ""
  | text :: _, [] => text
  | text :: texts, value :: values => text ++ value ++ weave texts values

def fixedChars (t : Template) (n : Nat) : List Char := ((fixedTexts t.pieces)[n]?.getD "").toList

theorem fixedTexts_ne_nil (ps : List Piece) : fixedTexts ps ≠ [] := by
  induction ps with
  | nil => exact List.cons_ne_nil _ _
  | cons p ps ih =>
    cases p with
    | text s =>
      obtain ⟨text, texts, written⟩ := List.exists_cons_of_ne_nil ih
      rw [fixedTexts, written]
      exact List.cons_ne_nil _ _
    | _ => exact List.cons_ne_nil _ _

theorem weave_modifyHead (s : String) {texts : List String} (shows : texts ≠ [])
    (values : List String) : weave (texts.modifyHead (s ++ ·)) values = s ++ weave texts values := by
  obtain ⟨text, texts, rfl⟩ := List.exists_cons_of_ne_nil shows
  cases values with
  | nil => rfl
  | cons value values => simp only [List.modifyHead_cons, weave, String.append_assoc]

/-- The values of the places stand between the fixed texts, and nothing else does. -/
theorem expandAll_eq_weave (data : Fields) {ps : List Piece} (flat : ∀ p ∈ ps, isFlat p = true) :
    expandAll data ps = weave (fixedTexts ps) ((ps.filter isPlace).map (expand data)) := by
  induction ps with
  | nil => rfl
  | cons p ps ih =>
    rw [List.forall_mem_cons] at flat
    have rest := ih flat.2
    have place (here : isPlace p = true) (empty : fixedTexts (p :: ps) = "" :: fixedTexts ps) :
        expandAll data (p :: ps) =
          weave (fixedTexts (p :: ps)) (((p :: ps).filter isPlace).map (expand data)) := by
      rw [expandAll, rest, empty, List.filter_cons_of_pos here, List.map_cons, weave,
        String.empty_append]
    cases p with
    | text s =>
      rw [expandAll, rest, expand, fixedTexts, weave_modifyHead s (fixedTexts_ne_nil ps)]
      rfl
    | value key => exact place rfl rfl
    | json value => exact place rfl rfl
    | indent | whenTrue | unknown => exact absurd flat.1 Bool.false_ne_true

theorem failsAny_eq_false (data : Fields) {ps : List Piece} (flat : ∀ p ∈ ps, isFlat p = true) :
    failsAny data ps = false := by
  induction ps with
  | nil => rfl
  | cons p ps ih =>
    rw [List.forall_mem_cons] at flat
    rw [failsAny, ih flat.2, Bool.or_false]
    cases p with
    | text | value | json => rfl
    | indent | whenTrue | unknown => exact absurd flat.1 Bool.false_ne_true

/-- A text that a template is rendered to, with some values in its places. -/
structure Filled (t : Template) (data : Fields) (values : List String) (content : String) : Prop where
  rendered : t.render? data = some content
  woven : content = weave (fixedTexts t.pieces) values

theorem filled_fill {t : Template} (flat : ∀ p ∈ t.pieces, isFlat p = true) (data : Fields) :
    Filled t data ((t.pieces.filter isPlace).map (expand data)) (t.fill data) where
  rendered := by
    rw [render?, failsAny_eq_false data flat]
    rfl
  woven := expandAll_eq_weave data flat

end MiniApp.Template

import Mathlib.Tactic.Common
import MiniApp.Document.Basic
import MiniApp.Project.Basic

set_option autoImplicit false

namespace MiniApp

/-- The JSON of a text is a string, and that string is not the text of another one. -/
def EncodedTwice (text inner : String) : Prop :=
  Json.read text = .ok (.string inner) ∧ ∀ deeper, Json.read inner ≠ .ok (.string deeper)

namespace Graph

theorem ofJson_of_ne_string {v : Json} (h : ∀ s, v ≠ .string s) : ofJson v = ofObject v := by
  cases v with
  | string s => exact absurd rfl (h s)
  | null | bool _ | integer _ | float _ | array _ | object _ => rfl

theorem ofObject_ne_notAnObject {v : Json} (h : ∀ s, v ≠ .string s) :
    ofObject v ≠ .error (.notAnObject "string") := by
  cases v with
  | string s => exact absurd rfl (h s)
  | object entries =>
    rw [ofObject, ofEntries]
    split
    · exact fun refused => nomatch refused
    · split <;> exact fun refused => nomatch refused
  | null | bool _ | integer _ | float _ | array _ => simp [ofObject, Json.kind]

/-- Without a string in the way, nothing but the read value decides. -/
theorem ofText_eq_ofJson {text : String} (h : ∀ inner, Json.read text ≠ .ok (.string inner)) :
    ofText text = ofJson (.string text) := by
  rw [ofText, ofJson]
  cases read : Json.read text with
  | error e => rfl
  | ok v => exact ofJson_of_ne_string fun s hv => h s (hv ▸ read)

theorem ofText_of_string {text inner : String} (h : Json.read text = .ok (.string inner)) :
    ofText text = ofJson (.string inner) := by
  rw [ofText, h]

theorem ofJson_of_string {text inner : String} (h : Json.read text = .ok (.string inner)) :
    ofJson (.string text) = .error (.notAnObject "string") := by
  rw [ofJson, h]
  rfl

theorem ofJson_string_eq_notAnObject_iff (text : String) :
    ofJson (.string text) = .error (.notAnObject "string") ↔
      ∃ inner, Json.read text = .ok (.string inner) := by
  refine ⟨fun refused => ?_, fun ⟨inner, h⟩ => ofJson_of_string h⟩
  by_contra! none
  rw [ofJson] at refused
  cases read : Json.read text with
  | error e =>
    rw [read] at refused
    exact nomatch refused
  | ok v =>
    rw [read] at refused
    exact ofObject_ne_notAnObject (fun s hv => none s (hv ▸ read)) refused

theorem ofText_eq_ofJson_iff (text : String) :
    ofText text = ofJson (.string text) ↔ ¬ ∃ inner, EncodedTwice text inner := by
  constructor
  · rintro same ⟨inner, h, last⟩
    rw [ofText_of_string h, ofJson_of_string h, ofJson_string_eq_notAnObject_iff] at same
    obtain ⟨deeper, hd⟩ := same
    exact last deeper hd
  · intro notTwice
    by_cases h : ∃ inner, Json.read text = .ok (.string inner)
    · obtain ⟨inner, h⟩ := h
      rw [ofText_of_string h, ofJson_of_string h, ofJson_string_eq_notAnObject_iff]
      by_contra! last
      exact notTwice ⟨inner, h, last⟩
    · exact ofText_eq_ofJson (not_exists.1 h)

end Graph

/-- Where a text is read makes a difference for the texts alone that are encoded exactly twice. -/
theorem readings_of_text (text : String) :
    (∀ id name, (Page.ofText id name text).readGraph = Graph.ofJson (.string text)) ∧
    (Graph.ofText text = Graph.ofJson (.string text) ↔ ¬ ∃ inner, EncodedTwice text inner) ∧
    ((¬ ∃ inner, EncodedTwice text inner) →
      (∀ o, Document.ofText o text = Document.ofJson o (.string text)) ∧
        ∀ o, Project.ofText o text = Project.ofJson o (.string text)) ∧
    ∀ inner, EncodedTwice text inner → Graph.ofText text = Graph.ofJson (.string inner) ∧
      Graph.ofJson (.string text) = .error (.notAnObject "string") := by
  refine ⟨fun _ _ => rfl, Graph.ofText_eq_ofJson_iff text, fun notTwice => ?_, fun inner h =>
    ⟨Graph.ofText_of_string h.1, Graph.ofJson_of_string h.1⟩⟩
  have same := (Graph.ofText_eq_ofJson_iff text).2 notTwice
  refine ⟨fun o => ?_, fun o => ?_⟩
  · rw [Document.ofText, Document.ofJson, same]
  · rw [Project.ofText, Project.ofJson, same]

/-- The least graph, written as JSON and once more as a string of JSON. -/
theorem readings_differ_when_encoded_twice :
    let text := "\"\x7b\\\"ROOT\\\":\x7b\x7d\x7d\""
    (Graph.ofText text).toOption.isSome = true ∧
      Graph.ofJson (.string text) = .error (.notAnObject "string") ∧
      (Page.ofText "" "" text).readGraph = .error (.notAnObject "string") := by
  decide +kernel

end MiniApp

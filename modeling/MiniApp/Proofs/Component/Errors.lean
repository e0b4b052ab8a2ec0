import MiniApp.Component.Catalog
import MiniApp.Proofs.Component.Fields
import MiniApp.Proofs.Component.Resolution
import MiniApp.Proofs.Props.Default

set_option autoImplicit false

namespace MiniApp

def PropError.IsShape : PropError → Prop
  | .invalid .. => True
  | .missing .. => False

/-- An error about the shape of a value or about a property that a button lacks. -/
def PropError.IsButton : PropError → Prop
  | .invalid .. => True
  | .missing component _ => component = "Button"

open MiniApp.Except (FailsBy)
open Props

theorem Action.failsBy_resolve (p : Props) : FailsBy PropError.IsButton (resolve p) := by
  refine (reads_resolve.errors p).imp fun error why => ?_
  rcases why with refused | ⟨property, rfl⟩
  · cases refused
    trivial
  · rfl

namespace Component

theorem failsBy_resolve (kind : Kind) (p : Props) : FailsBy PropError.IsShape (resolve kind p) := by
  refine ((reads_resolve kind).errors p).imp fun error why => ?_
  obtain refused := why.resolve_right id
  cases refused
  trivial

/-- The errors that resolving a component meets. That of a button's action is met even where the
button goes on without it. -/
inductive Meets : Kind → Props → PropError → Prop
  | model {kind : Kind} {p : Props} {error : PropError} (h : resolve kind p = .error error) :
      Meets kind p error
  | action {p : Props} {error : PropError} (h : Action.resolve p = .error error) :
      Meets .button p error

theorem isButton_of_resolve {p : Props} {component : Component} {error : PropError}
    (ok : resolve .button p = .ok component) (failed : Action.resolve p = .error error) :
    ∃ property, error = .missing "Button" property := by
  have button := Action.failsBy_resolve p error failed
  cases error with
  | missing component property =>
    obtain rfl : component = "Button" := button
    exact ⟨property, rfl⟩
  | invalid property expected found =>
    have action : actionOf p = .error (.invalid property expected found) := by
      rw [actionOf, failed]
    rw [resolve, Button.resolve, action] at ok
    cases ok

/-- A component resolves just when nothing goes wrong but that a button's action lacks a
property. -/
theorem exists_resolve_iff (kind : Kind) (p : Props) :
    (∃ component, resolve kind p = .ok component) ↔
      ∀ error, Meets kind p error → ∃ property, error = .missing "Button" property := by
  constructor
  · rintro ⟨component, ok⟩ error (failed | failed)
    · cases ok.symm.trans failed
    · exact isButton_of_resolve ok failed
  · intro met
    cases result : resolve kind p with
    | ok component => exact ⟨component, rfl⟩
    | error error =>
      obtain ⟨property, rfl⟩ := met error (.model result)
      exact absurd result fun missing => failsBy_resolve kind p _ missing

end Component

def Fields.ofTexts (texts : List (String × Option String)) : Fields :=
  texts.map fun t => (t.1, (t.2.map Json.string).getD .null)

/-- A text that says nothing under its property. -/
def Kind.isUnusable (kind : Kind) (texts : List (String × Option String)) (key : String) : Bool :=
  match kind.fields.lookup key, texts.lookup key with
  | some shape, some (some s) => shape.isUnusable s
  | _, _ => false

def Kind.usable (kind : Kind) (texts : List (String × Option String)) :
    List (String × Option String) :=
  texts.filter fun t => !kind.isUnusable texts t.1

example : Kind.heading.usable [("align", some "sideways"), ("level", some "3px"), ("text", some "")] =
    [("level", some "3px"), ("text", some "")] := by
  decide +kernel

theorem lookup_words (words : List String) (word : String) :
    (words.map fun w => (w, ())).lookup word = if words.contains word then some () else none := by
  induction words with
  | nil => rfl
  | cons w words ih =>
    rw [List.map_cons, List.lookup_cons, List.contains_cons, ih]
    cases word == w <;> rfl

theorem PropShape.judge_string (shape : PropShape) (s : String) :
    shape.judge (.string s) = if shape.isUnusable s then .unusable else .found () := by
  have checked (read : String → Option String) : judgeText read (.string s) =
      if (read s).isNone then .unusable else .found () := by
    rw [judgeText, stringOf?, Option.bind_some]
    cases read s <;> rfl
  cases shape with
  | text | items => rfl
  | color => exact checked Sanitize.color?
  | address => exact checked Sanitize.url?
  | shownText =>
    rw [judge, readShownText, Json.scalarText?, isUnusable]
    dsimp only
    split <;> rfl
  | number =>
    rw [judge, readNumber, isUnusable]
    cases Numeral.read? s <;> rfl
  | flag =>
    have words : ["true", "yes", "1", "false", "no", "0"].contains (keywordOf s) =
        (["true", "yes", "1"].contains (keywordOf s) ||
          ["false", "no", "0"].contains (keywordOf s)) := by
      simp only [List.contains_cons, List.contains_nil, Bool.or_false, Bool.or_assoc]
    rw [judge, readBool, isUnusable, words]
    cases ["true", "yes", "1"].contains (keywordOf s) <;>
      cases ["false", "no", "0"].contains (keywordOf s) <;> rfl
  | keyword words =>
    rw [judge, readKeyword, Json.scalarText?, isUnusable]
    dsimp only
    rw [lookup_words]
    cases words.contains (keywordOf s) <;> rfl

theorem Catalog.accepts_defaults (kind : Kind) : ∀ f ∈ kind.fields,
    ∀ v ∈ (entry kind).defaults.lookup f.1, f.2.refuses v = false := by
  cases kind <;> decide +kernel

theorem Catalog.judge_default_ne {kind : Kind} {key : String} {shape : PropShape} {v : Json}
    (field : kind.fields.lookup key = some shape)
    (standard : (entry kind).defaults.lookup key = some v) (expected : String) :
    shape.judge v ≠ .wrongShape expected := by
  intro refused
  obtain ⟨_, _, split, -⟩ := List.lookup_eq_some_iff.1 field
  have accepted := accepts_defaults kind (key, shape) (by simp [split]) v standard
  rw [PropShape.refuses, refused] at accepted
  cases accepted

theorem Fields.lookup_ofTexts (texts : List (String × Option String)) (key : String) :
    (ofTexts texts).lookup key =
      (texts.lookup key).map fun text => (text.map Json.string).getD .null :=
  Json.lookup_map (fun _ (text : Option String) => (text.map Json.string).getD .null) texts key

theorem Fields.mem_values_ofTexts {texts : List (String × Option String)} {defaults : Fields}
    {key : String} {v : Json} (h : v ∈ values ⟨.ofTexts texts, defaults⟩ key) :
    (∃ s, v = .string s) ∨ defaults.lookup key = some v := by
  obtain ⟨member, shown⟩ := List.mem_filter.1 h
  rcases List.mem_append.1 member with explicit | standard
  · rw [lookup_ofTexts, Option.mem_toList, Option.map_eq_some_iff] at explicit
    obtain ⟨text, -, rfl⟩ := explicit
    cases text with
    | none => cases shown
    | some s => exact .inl ⟨s, rfl⟩
  · exact .inr (Option.mem_toList.1 standard)

theorem Component.exists_resolve_ofTexts (kind : Kind) (texts : List (String × Option String)) :
    ∃ component, resolve kind ⟨.ofTexts texts, (Catalog.entry kind).defaults⟩ = .ok component := by
  cases result : resolve kind ⟨.ofTexts texts, (Catalog.entry kind).defaults⟩ with
  | ok component => exact ⟨component, rfl⟩
  | error error =>
    cases ((reads_resolve kind).errors _ error result).resolve_right id with
    | @value key shape v expected field member refused =>
      rcases Fields.mem_values_ofTexts member with ⟨s, rfl⟩ | standard
      · rw [shape.judge_string] at refused
        split at refused <;> cases refused
      · exact absurd refused (Catalog.judge_default_ne field standard expected)

theorem Kind.agreeOn_usable (kind : Kind) (texts : List (String × Option String))
    (defaults : Fields) :
    AgreeOn kind.fields ⟨.ofTexts (kind.usable texts), defaults⟩ ⟨.ofTexts texts, defaults⟩ := by
  intro key shape field
  have kept := Json.lookup_filter (fun key => !kind.isUnusable texts key) texts key
  rw [values, values, Fields.lookup_ofTexts, Fields.lookup_ofTexts, usable, kept, isUnusable, field]
  rcases texts.lookup key with - | - | s
  · rfl
  · rfl
  · dsimp only
    by_cases unusable : shape.isUnusable s = true
    · have passed : shape.passes (.string s) = true := by
        rw [PropShape.passes, shape.judge_string, if_pos unusable]
      simp [unusable, passed]
    · simp [unusable]

/-- Properties that are texts or null are written out by the rules of the kind, and the texts that
say nothing under their properties give way to the defaults and the fallbacks. -/
theorem emit_ofTexts (kind : Kind) (backend : Backend) (texts : List (String × Option String))
    (c : Children) (handle : String) :
    ∃ out, (Catalog.entry kind).emit backend (.ofTexts texts) c handle = .ok out ∧
      (Catalog.entry kind).emit backend (.ofTexts (kind.usable texts)) c handle = .ok out := by
  obtain ⟨component, resolved⟩ := Component.exists_resolve_ofTexts kind texts
  have same := (Component.reads_resolve kind).same _ _
    (kind.agreeOn_usable texts (Catalog.entry kind).defaults)
  refine ⟨component.write backend c handle, ?_, ?_⟩
  · rw [Entry.emit_eq_resolve]
    exact congrArg (Except.map _) resolved
  · rw [Entry.emit_eq_resolve]
    exact congrArg (Except.map _) (same.trans resolved)

end MiniApp

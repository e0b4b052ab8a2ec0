import MiniApp.Component.Action
import MiniApp.Proofs.Code.Slots
import MiniApp.Source.Markup

set_option autoImplicit false

namespace MiniApp

open Code (Slot)

namespace Action

inductive Shape where
  | none
  | toast (duration : String)
  | pay (amount : String)
  | link
  | navigate
  | share (addressed : Bool)
  | back
  | copy
  | push
  | user
deriving DecidableEq

def shape : Action → Shape
  | .none => .none
  | .toast _ duration => .toast (Numeral.text duration)
  | .pay amount .. => .pay (Numeral.text amount)
  | .link _ => .link
  | .navigate _ => .navigate
  | .share _ _ url => .share url.isSome
  | .back => .back
  | .copy _ => .copy
  | .push => .push
  | .user => .user

/-- The texts of an action, in the order in which its handler has them. -/
def strings : Action → List String
  | .toast message _ => [message]
  | .pay _ currency description success failure => [currency, description, success, failure]
  | .link url => [url]
  | .navigate pageId => [pageId]
  | .share title text url => title :: text :: url.toList
  | .copy text => [text]
  | _ => []

namespace Shape

def notices : Shape → List String
  | .share _ => ["Sharing is not available"]
  | .copy => ["Copied to clipboard"]
  | .push => ["Notifications: "]
  | .user => ["Hello, "]
  | _ => []

def slotsOfCall (function : String) : List Slot :=
  [.receiver, .code (function ++ "("), .literal, .code ")"]

def slots : Shape → List Slot
  | .none => []
  | .toast duration => [.receiver, .code ".toast(", .literal, .code ", ", .code duration, .code ")"]
  | .pay amount =>
    [.receiver, .code ".pay(\x7b amount: ", .code amount, .code ", currency: ", .literal,
      .code ", description: ", .literal, .code " \x7d).then(() => "] ++ slotsOfCall ".toast" ++
      [.code ", () => "] ++ slotsOfCall ".toast" ++ [.code ")"]
  | .link => slotsOfCall ".openLink"
  | .navigate => slotsOfCall ".navigateTo"
  | .share addressed =>
    [.receiver, .code ".share(\x7b title: ", .literal, .code ", text: ", .literal] ++
      (if addressed then [.code ", url: ", .literal] else []) ++ [.code " \x7d).catch(() => "] ++
      slotsOfCall ".toast" ++ [.code ")"]
  | .back => [.receiver, .code ".goBack()"]
  | .copy => slotsOfCall ".copyToClipboard" ++ [.code ".then(() => "] ++ slotsOfCall ".toast" ++
      [.code ")"]
  | .push => [.receiver, .code ".requestPushPermission().then((result) => ", .receiver,
      .code ".toast(", .literal, .code " + result.status))"]
  | .user => [.receiver, .code ".getUser().then((user) => ", .receiver, .code ".toast(", .literal,
      .code " + user.name))"]

def skeleton (receiver : String) (s : Shape) : List Code.Token :=
  s.slots.flatMap (Slot.tokens receiver)

end Shape

section Slots

theorem plain_slots (a : Action) : ∀ slot ∈ a.shape.slots, slot.IsPlain := by
  cases a with
  | toast message duration =>
    simp only [shape, Shape.slots, List.forall_mem_cons]
    exact ⟨trivial, by decide, trivial, by decide, Code.plain_numeral duration, by decide,
      List.forall_mem_nil _⟩
  | pay amount currency description success failure =>
    simp only [shape, Shape.slots, List.forall_mem_append]
    refine ⟨⟨⟨⟨?_, by decide +kernel⟩, by decide⟩, by decide +kernel⟩, by decide⟩
    simp only [List.forall_mem_cons]
    exact ⟨trivial, by decide, Code.plain_numeral amount, by decide, trivial, by decide, trivial,
      by decide, List.forall_mem_nil _⟩
  | share title text url =>
    cases url <;> rw [shape]
    · exact (by decide +kernel : ∀ slot ∈ Shape.slots (.share false), slot.IsPlain)
    · exact (by decide +kernel : ∀ slot ∈ Shape.slots (.share true), slot.IsPlain)
  | _ =>
    rw [shape]
    decide +kernel

theorem fits_slots (a : Action) : Code.Fits a.shape.slots (a.strings ++ a.shape.notices) := by
  cases a with
  | share title text url => cases url <;> rfl
  | _ => rfl

/-- The handler is the code of its shape with the texts of the action in the places for them. -/
theorem handler?_eq_fill (receiver : String) {a : Action} (h : a ≠ .none) :
    a.handler? receiver =
      some (Code.fill receiver a.shape.slots (a.strings ++ a.shape.notices)) := by
  have greetings : (Escape.literal "Notifications: ").toList = "'Notifications: '".toList ∧
      (Escape.literal "Hello, ").toList = "'Hello, '".toList := by decide
  cases a with
  | none => exact absurd rfl h
  | share title text url =>
    rw [handler?, Option.some.injEq, ← String.toList_inj]
    cases url <;> simp [shape, strings, Shape.slots, Shape.notices, Code.fill,
      Shape.slotsOfCall, Script.call, Script.renderItems, Script.renderFields, Script.render]
  | _ =>
    rw [handler?, Option.some.injEq, ← String.toList_inj]
    simp [shape, strings, Shape.slots, Shape.slotsOfCall, Shape.notices, Code.fill,
      Script.call, Script.renderItems, Script.renderFields, Script.render, greetings]

end Slots

/-- What the code of a handler is: an attribute takes it as it is, and it is read as the code of the
action's shape around the texts of the action. -/
structure IsInert (receiver : String) (a : Action) (code : String) : Prop where
  quiet : ∀ c ∈ code.toList, Code.Quiet c
  unchanged : ∀ name, Markup.attrText (name, .script code) = " " ++ name ++ "=\"" ++ code ++ "\""
  read : ∃ tokens, Code.tokens? code = some tokens ∧
    Code.skeleton tokens = a.shape.skeleton receiver ∧
      Code.texts tokens = a.strings ++ a.shape.notices

theorem each_codeChar {code : String} (quiet : ∀ c ∈ code.toList, Code.Quiet c) :
    Escape.each Markup.codeChar code = code := by
  have same {cs : List Char} (h : ∀ c ∈ cs, Code.Quiet c) : cs.flatMap Markup.codeChar = cs := by
    induction cs with
    | nil => rfl
    | cons c cs ih =>
      rw [List.forall_mem_cons] at h
      have here : Markup.codeChar c = [c] := by
        unfold Markup.codeChar
        split
        · exact absurd h.1 (by decide)
        · exact absurd h.1 (by decide)
        · rfl
      rw [List.flatMap_cons, here, ih h.2, List.singleton_append]
  rw [Escape.each, same quiet, String.ofList_toList]

theorem isInert_handler {alphabet : Code.Alphabet} {receiver code : String} {a : Action}
    (name : alphabet.isName receiver.toList = true) (handles : a.handler? receiver = some code) :
    IsInert receiver a code := by
  have acts : a ≠ .none := by
    rintro rfl
    cases handles
  have named : ∀ c ∈ receiver.toList, Code.Plain c := fun c hc =>
    alphabet.plain_of_continues (alphabet.all_continues name c hc)
  rw [handler?_eq_fill receiver acts, Option.some.injEq] at handles
  have quiet : ∀ c ∈ code.toList, Code.Quiet c :=
    handles ▸ Code.quiet_fill named (plain_slots a) _
  refine ⟨quiet, fun place => ?_, handles ▸ Code.tokens?_fill named (plain_slots a) (fits_slots a)⟩
  rw [Markup.attrText, each_codeChar quiet]

/-- Every action but the one that does nothing has a handler. Wherever the bridge goes by a name,
the handler has the code of the action's shape with the texts of the action in its literals, and
under another name it differs in that name only. -/
theorem handlers_inert (alphabet : Code.Alphabet) (a : Action) :
    (∀ receiver, a.handler? receiver = Option.none ↔ a = .none) ∧
      (∀ receiver code, alphabet.isName receiver.toList = true →
        a.handler? receiver = some code → IsInert receiver a code) ∧
      (a ≠ .none → ∃ first others, ∀ receiver : String,
        a.handler? receiver = some (receiver.intercalate (first :: others))) := by
  refine ⟨fun receiver => handler?_eq_none_iff receiver a,
    fun receiver code name handles => isInert_handler name handles, fun acts => ?_⟩
  obtain ⟨first, others, same⟩ :=
    Code.fill_eq_intercalate a.shape.slots (a.strings ++ a.shape.notices)
  exact ⟨first, others, fun receiver => by rw [handler?_eq_fill receiver acts, same]⟩

theorem handlers_inert_toast :
    let toast : Action := .toast "\"><script>');alert(1);('" (.ofNat 500)
    IsInert "AppBridge" toast
        "AppBridge.toast('\\u0022\\u003E\\u003Cscript\\u003E\\u0027);alert(1);(\\u0027', 500)" ∧
      ∃ first others,
        toast.handler? "AppBridge" = some ("AppBridge".intercalate (first :: others)) ∧
          toast.handler? "bridge" = some ("bridge".intercalate (first :: others)) := by
  intro toast
  obtain ⟨-, inert, pieces⟩ := handlers_inert .low toast
  obtain ⟨first, others, same⟩ := pieces (by decide)
  exact ⟨inert _ _ (by decide) (by decide +kernel), first, others, same "AppBridge", same "bridge"⟩

end Action

end MiniApp

import MiniApp.Props
import MiniApp.Source.Script
import MiniApp.Text.Case

set_option autoImplicit false

namespace MiniApp

inductive Action where
  | none
  | toast (message : String) (duration : Double)
  | pay (amount : Double) (currency description success failure : String)
  | link (url : String)
  | navigate (pageId : String)
  | share (title text : String) (url : Option String)
  | back
  | copy (text : String)
  | push
  | user
deriving DecidableEq

namespace Action

inductive Choice where
  | none | toast | pay | link | navigate | share | back | copy | push | user
deriving DecidableEq

def Choice.words : List (String × Choice) := [("none", .none), ("toast", .toast), ("pay", .pay),
  ("link", .link), ("navigate", .navigate), ("share", .share), ("back", .back), ("copy", .copy),
  ("push", .push), ("user", .user)]

def word : Action → String
  | .none => "none"
  | .toast .. => "toast"
  | .pay .. => "pay"
  | .link .. => "link"
  | .navigate .. => "navigate"
  | .share .. => "share"
  | .back => "back"
  | .copy .. => "copy"
  | .push => "push"
  | .user => "user"

def required {α : Type} (property : String) : Option α → Except PropError α
  | some a => .ok a
  | Option.none => .error (.missing "Button" property)

/-- A currency code: no blanks around it, in upper case. -/
def currencyOf (s : String) : String := String.ofList (Text.upper (Text.trimmed s.toList))

def resolveToast (p : Props) : Except PropError Action := do
  let message ← p.text "message" "Done!"
  let duration ← p.clamped "duration" (.ofNat 2000) (.ofNat 500) (.ofNat 10000)
  return .toast message duration

def resolvePay (p : Props) : Except PropError Action := do
  let amount ← p.number "amount" .zero
  let currency ← p.text "currency" "USD"
  let description ← p.text "description" ""
  let success ← p.text "successMessage" "Payment successful"
  let failure ← p.text "failureMessage" "Payment failed"
  return .pay (if amount.lt .zero then .zero else amount) (currencyOf currency) description
    success failure

def resolveShare (p : Props) : Except PropError Action := do
  let title ← p.text "shareTitle" ""
  let label ← p.text "label" ""
  let text ← p.text "shareText" label
  return .share title text (p.url? "url")

def resolveCopy (p : Props) : Except PropError Action := do
  match ← p.shownText "copyText" with
  | some text => return .copy text
  | Option.none => return .copy (← p.text "label" "")

/-- The action that the properties of a button ask for. A link without an address and a navigation
without a page are errors. -/
def resolve (p : Props) : Except PropError Action := do
  match ← p.keyword "action" Choice.words .none with
  | .none => return .none
  | .toast => resolveToast p
  | .pay => resolvePay p
  | .link => return .link (← required "url" (p.url? "url"))
  | .navigate => return .navigate (← required "pageId" (← p.shownText "pageId"))
  | .share => resolveShare p
  | .back => return .back
  | .copy => resolveCopy p
  | .push => return .push
  | .user => return .user

def handler? (bridge : String) : Action → Option String
  | .none => Option.none
  | .toast message duration =>
    some (Script.call (bridge ++ ".toast") [.text message, .number duration])
  | .pay amount currency description success failure =>
    let request : Script := .record [("amount", .number amount), ("currency", .text currency),
      ("description", .text description)]
    some (Script.call (bridge ++ ".pay") [request] ++
      ".then(() => " ++ Script.call (bridge ++ ".toast") [.text success] ++
      ", () => " ++ Script.call (bridge ++ ".toast") [.text failure] ++ ")")
  | .link url => some (Script.call (bridge ++ ".openLink") [.text url])
  | .navigate pageId => some (Script.call (bridge ++ ".navigateTo") [.text pageId])
  | .share title text url =>
    let request : Script := .record ([("title", .text title), ("text", .text text)] ++
      url.toList.map fun u => ("url", .text u))
    some (Script.call (bridge ++ ".share") [request] ++
      ".catch(() => " ++ Script.call (bridge ++ ".toast") [.text "Sharing is not available"] ++ ")")
  | .back => some (Script.call (bridge ++ ".goBack") [])
  | .copy text =>
    some (Script.call (bridge ++ ".copyToClipboard") [.text text] ++
      ".then(() => " ++ Script.call (bridge ++ ".toast") [.text "Copied to clipboard"] ++ ")")
  | .push =>
    some (Script.call (bridge ++ ".requestPushPermission") [] ++ ".then((result) => " ++
      Script.call (bridge ++ ".toast") [.code "'Notifications: ' + result.status"] ++ ")")
  | .user =>
    some (Script.call (bridge ++ ".getUser") [] ++ ".then((user) => " ++
      Script.call (bridge ++ ".toast") [.code "'Hello, ' + user.name"] ++ ")")

theorem handler?_eq_none_iff (bridge : String) (a : Action) :
    a.handler? bridge = Option.none ↔ a = .none := by
  cases a <;> simp [handler?]

end Action

end MiniApp

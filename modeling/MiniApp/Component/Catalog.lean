import MiniApp.Component.Kind
import MiniApp.Json.Value

set_option autoImplicit false

namespace MiniApp

structure Entry where
  kind : Kind
  defaults : Fields
  slotOrder : List String
deriving DecidableEq

namespace Catalog

def strings (items : List String) : Json := .array (items.map .string)

def properties : Kind → List (String × Json)
  | .container => [("direction", .string "column"), ("gap", .integer 12), ("padding", .integer 16),
      ("background", .string "transparent"), ("align", .string "stretch"),
      ("justify", .string "start"), ("radius", .integer 0)]
  | .layout => [("padding", .integer 16), ("gap", .integer 12)]
  | .text => [("text", .string "Text"), ("size", .integer 16), ("align", .string "left"),
      ("weight", .integer 400)]
  | .heading => [("text", .string "Heading"), ("level", .integer 2), ("align", .string "left")]
  | .button => [("label", .string "Button"), ("variant", .string "primary"),
      ("fullWidth", .bool false), ("action", .string "none"), ("message", .string "Done!"),
      ("duration", .integer 2000), ("amount", .integer 1), ("currency", .string "USD"),
      ("description", .string "Purchase"), ("successMessage", .string "Payment successful"),
      ("failureMessage", .string "Payment failed"), ("shareTitle", .string "Check this out")]
  | .image => [("src", .string "https://placehold.co/600x400?text=Image"), ("alt", .string ""),
      ("height", .integer 180), ("radius", .integer 12), ("fit", .string "cover")]
  | .card => [("title", .string "Card title"), ("subtitle", .string ""), ("padding", .integer 16),
      ("radius", .integer 16)]
  | .carousel => [
      ("images", strings ["https://placehold.co/600x400?text=Slide+1",
        "https://placehold.co/600x400?text=Slide+2", "https://placehold.co/600x400?text=Slide+3"]),
      ("interval", .integer 3000), ("autoplay", .bool true), ("height", .integer 200)]
  | .sheet => [("triggerLabel", .string "Open"), ("title", .string "Details"),
      ("closeLabel", .string "Close")]
  | .tabBar => [
      ("tabs", .array [.object [("label", .string "Home")],
        .object [("label", .string "Profile")]]),
      ("active", .integer 0)]
  | .progress => [("value", .integer 50), ("height", .integer 8), ("showLabel", .bool true),
      ("label", .string "Progress")]
  | .divider => [("thickness", .integer 1), ("spacing", .integer 8)]
  | .spacer => [("height", .integer 16)]
  | .input => [("label", .string "Label"), ("placeholder", .string "Type here"),
      ("inputType", .string "text"), ("required", .bool false)]
  | .list => [("items", strings ["First item", "Second item", "Third item"]),
      ("ordered", .bool false)]
  | .avatar => [("name", .string "User"), ("size", .integer 48)]
  | .badge => [("text", .string "New"), ("tone", .string "primary")]
  | .navBar => [("title", .string "Title"), ("showBack", .bool true)]

/-- The slots that a kind gives a place of their own, in order. -/
def slotOrder : Kind → List String
  | .layout => ["header", "content", "footer"]
  | .card => ["footer"]
  | .sheet => ["content"]
  | _ => []

def entry (kind : Kind) : Entry := ⟨kind, sortFields (properties kind), slotOrder kind⟩

def aliases : List (String × Kind) := [
  ("Column", .container), ("Row", .container), ("Box", .container), ("View", .container),
  ("Paragraph", .text), ("Label", .text), ("Title", .heading), ("ProgressBar", .progress),
  ("BottomSheet", .sheet), ("Tabs", .tabBar), ("Header", .navBar), ("Chip", .badge)]

end Catalog

end MiniApp

import MiniApp.Escape
import MiniApp.Number.Numeral

set_option autoImplicit false

namespace MiniApp

/-- Records have identifiers for keys; `code` is fixed source text. -/
inductive Script where
  | text (value : String)
  | number (value : Double)
  | bool (value : Bool)
  | list (items : List Script)
  | record (fields : List (String × Script))
  | code (source : String)

namespace Script

def boolText (b : Bool) : String := if b then "true" else "false"

mutual

def render : Script → String
  | .text s => Escape.literal s
  | .number d => Numeral.text d
  | .bool b => boolText b
  | .list items => "[" ++ ", ".intercalate (renderItems items) ++ "]"
  | .record [] => "\x7b\x7d"
  | .record fields => "\x7b " ++ ", ".intercalate (renderFields fields) ++ " \x7d"
  | .code source => source

def renderItems : List Script → List String
  | [] => []
  | e :: es => render e :: renderItems es

def renderFields : List (String × Script) → List String
  | [] => []
  | (key, e) :: fields => (key ++ ": " ++ render e) :: renderFields fields

end

theorem renderItems_eq_map (es : List Script) : renderItems es = es.map render := by
  induction es with
  | nil => rfl
  | cons e es ih => rw [renderItems, ih, List.map_cons]

theorem renderFields_eq_map (fields : List (String × Script)) :
    renderFields fields = fields.map fun f => f.1 ++ ": " ++ f.2.render := by
  induction fields with
  | nil => rfl
  | cons f fields ih => rw [renderFields, ih, List.map_cons]

def call (callee : String) (args : List Script) : String :=
  callee ++ "(" ++ ", ".intercalate (renderItems args) ++ ")"

end Script

end MiniApp

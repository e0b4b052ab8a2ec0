import MiniApp.Json.Writer

set_option autoImplicit false

namespace MiniApp

inductive RecordError where
  | wrongType (found : Json) (expected : String)
  | wrongValue (found : Json) (expected : String)
  | missingField (name : String)
  | duplicateField (name : String)
  | tooShort (length : Nat) (expected : String)
  | tooLong (length : Nat)
deriving DecidableEq

namespace RecordError

def found : Json → String
  | .null => "null"
  | .bool b => "boolean `" ++ (if b then "true" else "false") ++ "`"
  | .integer n => "integer `" ++ toString n ++ "`"
  | .float d => "floating point `" ++ Json.floatText d ++ "`"
  | .string s => "string " ++ Text.quoted s
  | .array _ => "sequence"
  | .object _ => "map"

def message : RecordError → String
  | .wrongType v expected => "invalid type: " ++ found v ++ ", expected " ++ expected
  | .wrongValue v expected => "invalid value: " ++ found v ++ ", expected " ++ expected
  | .missingField name => "missing field `" ++ name ++ "`"
  | .duplicateField name => "duplicate field `" ++ name ++ "`"
  | .tooShort n expected => "invalid length " ++ toString n ++ ", expected " ++ expected
  | .tooLong n => "invalid length " ++ toString n ++ ", expected fewer elements in array"

end RecordError

/-- A field of the record `ρ`: its name, the other names it goes by, and how a value is read into
the record. -/
structure Field (ρ : Type) where
  name : String
  aliases : List String
  set : Json → ρ → Except RecordError ρ

namespace Field

variable {ρ : Type}

def answersTo (key : String) (f : Field ρ) : Bool := key == f.name || f.aliases.contains key

/-- Reads the fields of an object one after another; `met` names those that came already. -/
def readObject (specs : List (Field ρ)) (met : List String) (r : ρ) :
    Fields → Except RecordError ρ
  | [] => .ok r
  | (key, v) :: rest =>
    match specs.find? (answersTo key) with
    | none => readObject specs met r rest
    | some f =>
      if met.contains f.name then .error (.duplicateField f.name)
      else match f.set v r with
        | .error e => .error e
        | .ok r => readObject specs (f.name :: met) r rest

def readList (length : Nat) (r : ρ) : List (Field ρ) → List Json → Except RecordError ρ
  | _, [] => .ok r
  | [], _ :: _ => .error (.tooLong length)
  | f :: specs, v :: vs =>
    match f.set v r with
    | .error e => .error e
    | .ok r => readList length r specs vs

def readRecord (name : String) (specs : List (Field ρ)) (initial : ρ) :
    Json → Except RecordError ρ
  | .object fields => readObject specs [] initial fields
  | .array items => readList items.length initial specs items
  | v => .error (.wrongType v ("struct " ++ name))

end Field

namespace Json

def asString : Json → Except RecordError String
  | .string s => .ok s
  | v => .error (.wrongType v "a string")

def asBool : Json → Except RecordError Bool
  | .bool b => .ok b
  | v => .error (.wrongType v "a boolean")

def asWord : Json → Except RecordError Nat
  | .integer (.ofNat n) => .ok n
  | .integer (.negSucc n) => .error (.wrongValue (.integer (.negSucc n)) "u64")
  | v => .error (.wrongType v "u64")

def asOptionalString : Json → Except RecordError (Option String)
  | .null => .ok none
  | v => (asString v).map some

def asList : Json → Except RecordError (List Json)
  | .array items => .ok items
  | v => .error (.wrongType v "a sequence")

end Json

end MiniApp

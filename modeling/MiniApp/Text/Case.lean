import MiniApp.Text.CaseTable

set_option autoImplicit false

namespace MiniApp.Text

def mapCase (runs : List CaseRun) (expansions : List (Nat × List Nat)) (c : Char) : List Char :=
  match expansions.lookup c.toNat with
  | some ns => ns.map Char.ofNat
  | none =>
    match runs.findSome? (·.image? c.toNat) with
    | some n => [Char.ofNat n]
    | none => [c]

def upperChar : Char → List Char := mapCase upperRuns upperExpansions

def lowerChar : Char → List Char := mapCase lowerRuns lowerExpansions

def upper (cs : List Char) : List Char := cs.flatMap upperChar

def lower (cs : List Char) : List Char := cs.flatMap lowerChar

def lowerAscii (cs : List Char) : List Char := cs.map Char.toLower

end MiniApp.Text

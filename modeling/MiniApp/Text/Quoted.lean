import MiniApp.Text.ClusterTable
import MiniApp.Text.PrintTable

set_option autoImplicit false

namespace MiniApp.Text

def hexDigits (n : Nat) : List Char := Nat.toDigits 16 n

/-- Emoji modifiers extend a cluster and still print. -/
def isClinging (n : Nat) : Bool :=
  inRanges extendRanges n && !(0x1f3fb ≤ n && n ≤ 0x1f3ff)

def quotedChar (c : Char) : List Char :=
  match c with
  | '\x00' => ['\\', '0']
  | '\t' => ['\\', 't']
  | '\r' => ['\\', 'r']
  | '\n' => ['\\', 'n']
  | '"' => ['\\', '"']
  | '\\' => ['\\', '\\']
  | c =>
    let n := c.toNat
    if (0x20 ≤ n ∧ n < 0x7f) ∨ ¬ (isClinging n ∨ inRanges unprintableRanges n) then [c]
    else '\\' :: 'u' :: '{' :: hexDigits n ++ ['}']

def quoted (s : String) : String :=
  String.ofList ('"' :: s.toList.flatMap quotedChar ++ ['"'])

end MiniApp.Text

import MiniApp.Text.Blank
import MiniApp.Text.Lines

set_option autoImplicit false

namespace MiniApp

def spaces (n : Nat) : String := String.ofList (List.replicate n ' ')

def indented (level : Nat) (line : String) : String :=
  if line = "" then "" else spaces (2 * level) ++ line

def blockLines (level : Nat) (fragment : String) : List String :=
  (Text.linesOf fragment).map (indented level)

def finishLines (lines : List String) : String :=
  let text := (String.join (lines.map (· ++ "\n"))).toList
  String.ofList (text.reverse.dropWhile (· == '\n')).reverse

/-- The lines of a text moved right by some spaces; blank lines become empty. -/
def indentBlock (text : String) (width : Nat) : String :=
  "\n".intercalate ((Text.linesOf text).map fun line =>
    if Text.isBlankText line then "" else spaces width ++ line)

structure Writer where
  lines : List String
  level : Nat

namespace Writer

def empty : Writer := ⟨[], 0⟩

def line (w : Writer) (text : String) : Writer :=
  { w with lines := w.lines ++ [indented w.level text] }

def blank (w : Writer) : Writer := { w with lines := w.lines ++ [""] }

def block (w : Writer) (fragment : String) : Writer :=
  { w with lines := w.lines ++ blockLines w.level fragment }

def indent (w : Writer) : Writer := { w with level := w.level + 1 }

def dedent (w : Writer) : Writer := { w with level := w.level - 1 }

def finish (w : Writer) : String := finishLines w.lines

end Writer

end MiniApp

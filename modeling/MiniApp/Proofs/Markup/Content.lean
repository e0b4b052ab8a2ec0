import MiniApp.Proofs.Markup.Escaped
import MiniApp.Proofs.Text.Cut

set_option autoImplicit false

namespace MiniApp.Markup

/-- The start tag of the first element of a name, and its content. -/
def element? (name text : String) : Option (String × String) := do
  let (_, attrs) ← Text.cut? ('<' :: name.toList) text.toList
  let (attrs, behind) ← Text.cut? ['>'] attrs
  let (content, _) ← Text.cut? ('<' :: '/' :: (name.toList ++ ['>'])) behind
  return (String.ofList ('<' :: (name.toList ++ attrs ++ ['>'])), String.ofList content)

def attribute? (name tag : String) : Option String :=
  match read? tag with
  | some [.opening _ attrs] => (attrs.lookup name).join
  | _ => none

inductive TextMode where
  | plain
  | reference (letters : List Char)

def stepText : Scanner.Step TextMode Char
  | .plain, c =>
    if c = '<' then none
    else if c = '&' then some (.reference [], [])
    else some (.plain, [c])
  | .reference letters, c =>
    if c = ';' then (references.lookup letters).map fun r => (.plain, [r])
    else if isReferenceChar c then some (.reference (letters ++ [c]), [])
    else none

/-- What a text without tags stands for. -/
def decoded? (text : String) : Option String :=
  match Scanner.scan stepText .plain text.toList with
  | some (.plain, cs) => some (String.ofList cs)
  | _ => none

example : decoded? "a &lt; b &amp; c" = some "a < b & c" := by rfl

theorem scan_decoded_char (c : Char) :
    Scanner.scan stepText .plain (Escape.markupChar c) = some (.plain, [c]) := by
  unfold Escape.markupChar
  split
  iterate 5 rfl
  · next _ amp lt _ _ _ =>
    have here : stepText .plain c = some (.plain, [c]) := by rw [stepText, if_neg lt, if_neg amp]
    exact Scanner.scan_cons here rfl

theorem decoded?_markup (text : String) : decoded? (Escape.markup text) = some text := by
  have all (cs : List Char) :
      Scanner.scan stepText .plain (cs.flatMap Escape.markupChar) = some (.plain, cs) := by
    induction cs with
    | nil => rfl
    | cons c cs ih => exact Scanner.scan_append (scan_decoded_char c) ih
  rw [decoded?, Escape.markup, Escape.toList_each, all]
  exact congrArg some String.ofList_toList

section Elements

def elementChars (name : String) (attrs content : List Char) : List Char :=
  '<' :: name.toList ++ (attrs ++ ('>' :: (content ++ ('<' :: '/' :: (name.toList ++ ['>'])))))

theorem element?_eq {name text : String} {before attrs content after : List Char}
    (split : text.toList = before ++ (elementChars name attrs content ++ after))
    (new : Text.Passes ('<' :: name.toList) before) (plain : '>' ∉ attrs)
    (inside : Text.Passes ('<' :: '/' :: (name.toList ++ ['>'])) content) :
    element? name text = some (String.ofList ('<' :: (name.toList ++ attrs ++ ['>'])),
      String.ofList content) := by
  have parts : text.toList = before ++ (('<' :: name.toList) ++ (attrs ++ (['>'] ++
      (content ++ (('<' :: '/' :: (name.toList ++ ['>'])) ++ after))))) := by
    rw [split, elementChars]
    simp only [List.append_assoc, List.cons_append, List.nil_append]
  rw [element?, parts, new.cut?_append (List.cons_ne_nil _ _)]
  simp only [Option.bind_eq_bind, Option.bind_some]
  rw [(Text.passes_of_notMem plain).cut?_append (List.cons_ne_nil _ _)]
  simp only [Option.bind_some]
  rw [inside.cut?_append (List.cons_ne_nil _ _)]
  rfl

end Elements

end MiniApp.Markup

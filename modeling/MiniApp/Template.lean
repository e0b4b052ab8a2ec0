import MiniApp.Json.Reader
import MiniApp.Json.Writer
import MiniApp.Source.Writer
import MiniApp.Table

/-!
Text templates. Between double braces stands the name of a value, a helper with its parameters, or
the start or end of a block that is kept only when a value counts as true. Values are inserted as
they are. A template that names a helper nobody knows can be read, and fails when that place is
rendered.
-/

set_option autoImplicit false

namespace MiniApp

namespace Template

inductive Param where
  | name (key : String)
  | literal (value : Json)
deriving DecidableEq

inductive Piece where
  | text (value : String)
  | value (key : String)
  | indent (text width : Option Param)
  | json (value : Option Param)
  | whenTrue (condition : Param) (body : List Piece)
  | unknown (helper : String)

def Param.value? (data : Fields) : Param → Option Json
  | .name key => data.lookup key
  | .literal v => some v

mutual

def shown : Json → String
  | .null => ""
  | .string s => s
  | .array items => "[" ++ ", ".intercalate (shownItems items) ++ "]"
  | .object _ => "[object]"
  | v => v.text

def shownItems : List Json → List String
  | [] => []
  | v :: vs => shown v :: shownItems vs

end

def isTrue : Json → Bool
  | .null => false
  | .bool b => b
  | .integer n => n != 0
  | .float d => d.isNormal
  | .string s => s != ""
  | .array items => !items.isEmpty
  | .object fields => !fields.isEmpty

def indentText : Option Json → String
  | some (.string s) => s
  | _ => ""

def indentWidth : Option Json → Nat
  | some (.integer (.ofNat n)) => n
  | _ => 2

mutual

def expand (data : Fields) : Piece → String
  | .text s => s
  | .value key => ((data.lookup key).map shown).getD ""
  | .indent text width =>
    indentBlock (indentText (text.bind (·.value? data))) (indentWidth (width.bind (·.value? data)))
  | .json value => ((value.bind (·.value? data)).getD .null).text
  | .whenTrue condition body =>
    if (condition.value? data).any isTrue then expandAll data body else ""
  | .unknown _ => ""

def expandAll (data : Fields) : List Piece → String
  | [] => ""
  | p :: ps => expand data p ++ expandAll data ps

end

mutual

def fails (data : Fields) : Piece → Bool
  | .unknown _ => true
  | .whenTrue condition body => (condition.value? data).any isTrue && failsAny data body
  | _ => false

def failsAny (data : Fields) : List Piece → Bool
  | [] => false
  | p :: ps => fails data p || failsAny data ps

end

inductive Token where
  | text (value : List Char)
  | tag (content : List Char)

/-- Cuts the source at double braces; texts and tags alternate, texts first and last. A tag that is
not closed makes the source unreadable. -/
def tokensFrom (inTag : Bool) (done : List Char) : List Char → Option (List Token)
  | '{' :: '{' :: cs =>
    if inTag then tokensFrom true ('{' :: '{' :: done) cs
    else (tokensFrom true [] cs).map (.text done.reverse :: ·)
  | '}' :: '}' :: cs =>
    if inTag then (tokensFrom false [] cs).map (.tag done.reverse :: ·)
    else tokensFrom false ('}' :: '}' :: done) cs
  | c :: cs => tokensFrom inTag (c :: done) cs
  | [] => if inTag then none else some [.text done.reverse]

def isSpace (c : Char) : Bool := c == ' ' || c == '\t'

def isBreak (c : Char) : Bool := c == '\n' || c == '\r'

def endsBlank (atStart : Bool) (text : List Char) : Bool :=
  match text.reverse.dropWhile isSpace with
  | [] => atStart
  | c :: _ => isBreak c

/-- Whether the line that a text begins with holds only blanks and ends; `atEnd` says that the text
is the last of the source, whose end stands for a line break where nothing comes before it. -/
def beginsBlank (atEnd : Bool) (text : List Char) : Bool :=
  match text.dropWhile isSpace with
  | [] => atEnd && text.isEmpty
  | c :: _ => isBreak c

def dropLastBlanks (text : List Char) : List Char := (text.reverse.dropWhile isSpace).reverse

def dropFirstLine (text : List Char) : List Char :=
  match text.dropWhile isSpace with
  | '\r' :: '\n' :: rest => rest
  | '\n' :: rest => rest
  | rest => rest

def isBlockTag (content : List Char) : Bool :=
  match content.dropWhile Text.isBlank with
  | '#' :: _ | '/' :: _ => true
  | _ => false

/-- Takes the lines away that hold nothing but a block tag. `first` says that no token came before,
`cut` that the line of a block tag reaches into the next text. -/
def dropTagLines (first cut : Bool) : List Token → List Token
  | .text t :: .tag content :: .text u :: rest =>
    let alone := isBlockTag content && endsBlank first t && beginsBlank rest.isEmpty u
    let kept := if alone then dropLastBlanks t else t
    .text (if cut then dropFirstLine kept else kept) :: .tag content ::
      dropTagLines false alone (.text u :: rest)
  | .text t :: rest => .text (if cut then dropFirstLine t else t) :: rest
  | tokens => tokens

def isNameChar (c : Char) : Bool := c.isAlphanum || c == '_' || c == '-' || c == '$'

def isName (word : List Char) : Bool := !word.isEmpty && word.all isNameChar

def readParam? (word : List Char) : Option Param :=
  match Json.readChars word with
  | .ok v => some (.literal v)
  | .error _ => if isName word then some (.name (String.ofList word)) else none

def readTag? (words : List (List Char)) : Option Piece :=
  match words with
  | [] => none
  | word :: params =>
    if !isName word then none
    else (params.mapM readParam?).map fun params =>
      let name := String.ofList word
      if name = "indent" then .indent params[0]? params[1]?
      else if name = "json" then .json params[0]?
      else if params.isEmpty then .value name
      else .unknown name

def blockPiece (name : String) (params : List Param) (body : List Piece) : Piece :=
  match params with
  | condition :: _ => if name = "if" then .whenTrue condition body else .unknown name
  | [] => .unknown name

/-- A block that is open: its name and parameters, and the pieces before it, backwards. -/
structure OpenBlock where
  name : String
  params : List Param
  before : List Piece

/-- The pieces of some tokens; `done` holds those of the innermost block, backwards. -/
def piecesFrom (blocks : List OpenBlock) (done : List Piece) : List Token → Option (List Piece)
  | [] => if blocks.isEmpty then some done.reverse else none
  | .text t :: tokens =>
    if t.isEmpty then piecesFrom blocks done tokens
    else piecesFrom blocks (.text (String.ofList t) :: done) tokens
  | .tag content :: tokens =>
    match content.dropWhile Text.isBlank with
    | '#' :: rest =>
      match Text.words rest with
      | [] => none
      | name :: params =>
        match params.mapM readParam? with
        | some params =>
          if isName name then
            piecesFrom (⟨String.ofList name, params, done⟩ :: blocks) [] tokens
          else none
        | none => none
    | '/' :: rest =>
      match blocks with
      | block :: blocks =>
        if Text.words rest = [block.name.toList] then
          piecesFrom blocks (blockPiece block.name block.params done.reverse :: block.before) tokens
        else none
      | [] => none
    | content =>
      match readTag? (Text.words content) with
      | some piece => piecesFrom blocks (piece :: done) tokens
      | none => none

end Template

structure Template where
  pieces : List Template.Piece

namespace Template

def parse? (source : String) : Option Template :=
  ((tokensFrom false [] source.toList).bind fun tokens =>
    piecesFrom [] [] (dropTagLines true false tokens)).map Template.mk

def render? (t : Template) (data : Fields) : Option String :=
  if failsAny data t.pieces then none else some (expandAll data t.pieces)

def fill (t : Template) (data : Fields) : String := expandAll data t.pieces

end Template

structure TemplateSet where
  templates : Table String Template

inductive TemplateError where
  | unreadable
  | notRendered
deriving DecidableEq

namespace TemplateSet

def empty : TemplateSet := ⟨.empty⟩

/-- Adds a template, or replaces the one of that name; a source that cannot be read changes
nothing. -/
def register (s : TemplateSet) (name source : String) : Except TemplateError TemplateSet :=
  match Template.parse? source with
  | some t => .ok ⟨s.templates.insert name t⟩
  | none => .error .unreadable

def contains (s : TemplateSet) (name : String) : Bool := s.templates.contains name

def render (s : TemplateSet) (name : String) (data : Fields) : Except TemplateError String :=
  match (s.templates.get? name).bind (·.render? data) with
  | some text => .ok text
  | none => .error .notRendered

end TemplateSet

def Asset.fileText (lines : List String) : String := String.join (lines.map (· ++ "\n"))

end MiniApp

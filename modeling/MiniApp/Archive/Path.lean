import MiniApp.Text.Blank

set_option autoImplicit false

namespace MiniApp

inductive PathFault where
  | emptyPath
  | absolutePath
  | backslash
  | emptyComponent
  | parentReference
  | currentReference
deriving DecidableEq

def PathFault.text : PathFault → String
  | .emptyPath => "empty path"
  | .absolutePath => "absolute path"
  | .backslash => "backslash separator"
  | .emptyComponent => "empty path component"
  | .parentReference => "parent directory reference"
  | .currentReference => "current directory reference"

namespace ArchivePath

def components (path : List Char) : List (List Char) := Text.splitWhere (· == '/') path

def componentFault? (component : List Char) : Option PathFault :=
  if component = [] then some .emptyComponent
  else if component = ['.', '.'] then some .parentReference
  else if component = ['.'] then some .currentReference
  else none

def faultIn? (path : List Char) : Option PathFault :=
  if path = [] then some .emptyPath
  else if path.head? = some '/' ∨ path.head? = some '\\' ∨ ':' ∈ path then some .absolutePath
  else if '\\' ∈ path then some .backslash
  else (components path).findSome? componentFault?

def fault? (path : String) : Option PathFault := faultIn? path.toList

end ArchivePath

end MiniApp

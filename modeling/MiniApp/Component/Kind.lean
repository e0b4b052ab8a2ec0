set_option autoImplicit false

namespace MiniApp

inductive Kind where
  | container | layout | text | heading | button | image | card | carousel | sheet | tabBar
  | progress | divider | spacer | input | list | avatar | badge | navBar
deriving DecidableEq

namespace Kind

def all : List Kind := [.container, .layout, .text, .heading, .button, .image, .card, .carousel,
  .sheet, .tabBar, .progress, .divider, .spacer, .input, .list, .avatar, .badge, .navBar]

def name : Kind → String
  | .container => "Container"
  | .layout => "Layout"
  | .text => "Text"
  | .heading => "Heading"
  | .button => "Button"
  | .image => "Image"
  | .card => "Card"
  | .carousel => "Carousel"
  | .sheet => "Sheet"
  | .tabBar => "TabBar"
  | .progress => "Progress"
  | .divider => "Divider"
  | .spacer => "Spacer"
  | .input => "Input"
  | .list => "List"
  | .avatar => "Avatar"
  | .badge => "Badge"
  | .navBar => "NavBar"

def ofName? (name : String) : Option Kind := all.find? fun k => k.name = name

theorem mem_all (k : Kind) : k ∈ all := by cases k <;> decide

end Kind

end MiniApp

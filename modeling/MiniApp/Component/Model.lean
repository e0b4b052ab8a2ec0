import MiniApp.Component.Action
import MiniApp.Component.Kind

set_option autoImplicit false

namespace MiniApp

def Props.ranged (p : Props) (key : String) (fallback lo hi : Nat) : Except PropError Double :=
  p.clamped key (.ofNat fallback) (.ofNat lo) (.ofNat hi)

namespace Component

inductive Direction where
  | column | row
deriving DecidableEq

def Direction.word : Direction → String
  | .column => "column"
  | .row => "row"

def Direction.words : List (String × Direction) := [("column", .column), ("row", .row)]

inductive Placement where
  | stretch | start | center | finish | between | around
deriving DecidableEq

def Placement.alignWords : List (String × Placement) :=
  [("stretch", .stretch), ("start", .start), ("center", .center), ("end", .finish)]

def Placement.justifyWords : List (String × Placement) :=
  [("start", .start), ("center", .center), ("end", .finish), ("between", .between),
    ("around", .around)]

def Placement.flexValue : Placement → String
  | .stretch => "stretch"
  | .start => "flex-start"
  | .center => "center"
  | .finish => "flex-end"
  | .between => "space-between"
  | .around => "space-around"

/-- The style value for the word of a placement; words of none stretch. -/
def flexValueOf (word : String) : String :=
  (((Placement.alignWords ++ Placement.justifyWords).lookup word).getD .stretch).flexValue

inductive TextAlign where
  | left | center | right | justify
deriving DecidableEq

def TextAlign.word : TextAlign → String
  | .left => "left"
  | .center => "center"
  | .right => "right"
  | .justify => "justify"

def TextAlign.words : List (String × TextAlign) :=
  [("left", .left), ("center", .center), ("right", .right), ("justify", .justify)]

inductive Variant where
  | primary | secondary | outline | ghost
deriving DecidableEq

def Variant.word : Variant → String
  | .primary => "primary"
  | .secondary => "secondary"
  | .outline => "outline"
  | .ghost => "ghost"

def Variant.words : List (String × Variant) :=
  [("primary", .primary), ("secondary", .secondary), ("outline", .outline), ("ghost", .ghost)]

inductive Fit where
  | cover | contain | fill
deriving DecidableEq

def Fit.word : Fit → String
  | .cover => "cover"
  | .contain => "contain"
  | .fill => "fill"

def Fit.words : List (String × Fit) := [("cover", .cover), ("contain", .contain), ("fill", .fill)]

inductive InputType where
  | text | email | number | tel | password | url | search | date
deriving DecidableEq

def InputType.word : InputType → String
  | .text => "text"
  | .email => "email"
  | .number => "number"
  | .tel => "tel"
  | .password => "password"
  | .url => "url"
  | .search => "search"
  | .date => "date"

def InputType.words : List (String × InputType) :=
  [("text", .text), ("email", .email), ("number", .number), ("tel", .tel),
    ("password", .password), ("url", .url), ("search", .search), ("date", .date)]

inductive Tone where
  | primary | success | warning | danger | neutral
deriving DecidableEq

def Tone.word : Tone → String
  | .primary => "primary"
  | .success => "success"
  | .warning => "warning"
  | .danger => "danger"
  | .neutral => "neutral"

def Tone.words : List (String × Tone) :=
  [("primary", .primary), ("success", .success), ("warning", .warning), ("danger", .danger),
    ("neutral", .neutral)]

structure Container where
  direction : Direction
  gap : Double
  padding : Double
  background : String
  align : Placement
  justify : Placement
  radius : Double

def Container.resolve (p : Props) : Except PropError Container := do
  let direction ← p.keyword "direction" Direction.words .column
  let gap ← p.ranged "gap" 12 0 200
  let padding ← p.ranged "padding" 16 0 200
  let align ← p.keyword "align" Placement.alignWords .stretch
  let justify ← p.keyword "justify" Placement.justifyWords .start
  let radius ← p.ranged "radius" 0 0 999
  return ⟨direction, gap, padding, p.color "background" "transparent", align, justify, radius⟩

structure Layout where
  padding : Double
  gap : Double

def Layout.resolve (p : Props) : Except PropError Layout := do
  let padding ← p.ranged "padding" 16 0 200
  let gap ← p.ranged "gap" 12 0 200
  return ⟨padding, gap⟩

structure Paragraph where
  text : String
  size : Double
  align : TextAlign
  weight : Double
  color : Option String

def roundToHundreds (d : Double) : Double :=
  ((d.div (.ofNat 100)).round).mul (.ofNat 100)

def Paragraph.resolve (p : Props) : Except PropError Paragraph := do
  let text ← p.text "text" ""
  let size ← p.ranged "size" 16 8 96
  let align ← p.keyword "align" TextAlign.words .left
  let weight ← p.ranged "weight" 400 100 900
  return ⟨text, size, align, roundToHundreds weight, p.color? "color"⟩

structure Heading where
  text : String
  level : Nat
  align : TextAlign
  color : Option String

def Heading.resolve (p : Props) : Except PropError Heading := do
  let text ← p.text "text" ""
  let level ← p.ranged "level" 2 1 6
  let align ← p.keyword "align" TextAlign.words .left
  return ⟨text, level.round.toNat, align, p.color? "color"⟩

def Heading.tag (h : Heading) : String :=
  match h.level with
  | 1 => "h1"
  | 2 => "h2"
  | 3 => "h3"
  | 4 => "h4"
  | 5 => "h5"
  | _ => "h6"

structure Button where
  label : String
  variant : Variant
  fullWidth : Bool
  disabled : Bool
  action : Action

/-- The action of a button; one that lacks a property does nothing. -/
def actionOf (p : Props) : Except PropError Action :=
  match Action.resolve p with
  | .error (.missing _ _) => .ok .none
  | result => result

def Button.resolve (p : Props) : Except PropError Button := do
  let action ← actionOf p
  let label ← p.text "label" ""
  let variant ← p.keyword "variant" Variant.words .primary
  let fullWidth ← p.bool "fullWidth" false
  let disabled ← p.bool "disabled" false
  return ⟨label, variant, fullWidth, disabled, action⟩

def Button.classes (b : Button) : List String :=
  ["mf-button", "mf-button-" ++ b.variant.word] ++ if b.fullWidth then ["mf-button-block"] else []

/-- Without an address the rules show an image of their own. -/
structure Image where
  src : Option String
  alt : String
  height : Double
  radius : Double
  fit : Fit

def Image.resolve (p : Props) : Except PropError Image := do
  let alt ← p.text "alt" ""
  let height ← p.ranged "height" 180 16 1200
  let radius ← p.ranged "radius" 12 0 999
  let fit ← p.keyword "fit" Fit.words .cover
  return ⟨p.url? "src", alt, height, radius, fit⟩

structure Card where
  title : String
  subtitle : Option String
  padding : Double
  radius : Double
  background : Option String

def Card.resolve (p : Props) : Except PropError Card := do
  let title ← p.text "title" ""
  let subtitle ← p.shownText "subtitle"
  let padding ← p.ranged "padding" 16 0 200
  let radius ← p.ranged "radius" 16 0 999
  return ⟨title, subtitle, padding, radius, p.color? "background"⟩

structure Slide where
  src : String
  alt : String
deriving DecidableEq

structure Carousel where
  slides : List Slide
  interval : Double
  autoplay : Bool
  height : Double

/-- The address in an item with fields: the first of two names that the item has decides. -/
def slideSource? (fields : Fields) : Option String :=
  match (fields.lookup "src").or (fields.lookup "url") with
  | some (.string s) => some s
  | _ => none

def slide? (number : Nat) (item : Json) : Option Slide :=
  let standard := "Slide " ++ toString number
  match item with
  | .string src => (Sanitize.url? src).map fun src => ⟨src, standard⟩
  | .object fields =>
    let alt := ((fields.lookup "alt").bind Json.scalarText?).getD standard
    ((slideSource? fields).bind Sanitize.url?).map fun src => ⟨src, alt⟩
  | _ => none

/-- The slides of the items that have one; an item keeps its number when others are dropped. -/
def slidesFrom (number : Nat) : List Json → List Slide
  | [] => []
  | item :: items => (slide? number item).toList ++ slidesFrom (number + 1) items

def Carousel.resolve (p : Props) : Except PropError Carousel := do
  let images ← p.items "images"
  let interval ← p.ranged "interval" 3000 1000 60000
  let autoplay ← p.bool "autoplay" true
  let height ← p.ranged "height" 200 80 800
  return ⟨slidesFrom 1 images, interval, autoplay, height⟩

structure Sheet where
  triggerLabel : String
  title : String
  closeLabel : String

def Sheet.resolve (p : Props) : Except PropError Sheet := do
  let triggerLabel ← p.text "triggerLabel" "Open"
  let title ← p.text "title" ""
  let closeLabel ← p.text "closeLabel" "Close"
  return ⟨triggerLabel, title, closeLabel⟩

structure Tab where
  label : String
  pageId : Option String
  icon : Option String
deriving DecidableEq

structure TabBar where
  tabs : List Tab
  active : Nat

def tabField? (fields : Fields) (names : List String) : Option String :=
  (names.findSome? fun name => (fields.lookup name).bind Json.scalarText?).filter fun s =>
    !Text.isBlankText s

def tab? (item : Json) : Option Tab :=
  match item with
  | .object fields =>
    (tabField? fields ["label", "title"]).map fun label =>
      ⟨label, tabField? fields ["pageId", "page"], tabField? fields ["icon"]⟩
  | item => item.scalarText?.map fun label => ⟨label, none, none⟩

def TabBar.resolve (p : Props) : Except PropError TabBar := do
  let items ← p.items "tabs"
  let tabs := items.filterMap tab?
  let active ← p.ranged "active" 0 0 (tabs.length - 1)
  return ⟨tabs, active.round.toNat⟩

structure Progress where
  value : Double
  height : Double
  showLabel : Bool
  label : String
  color : String

def Progress.resolve (p : Props) : Except PropError Progress := do
  let value ← p.ranged "value" 0 0 100
  let height ← p.ranged "height" 8 2 32
  let showLabel ← p.bool "showLabel" true
  let label ← p.text "label" ""
  return ⟨value, height, showLabel, label, p.color "color" "var(--mf-primary)"⟩

structure Divider where
  thickness : Double
  spacing : Double
  color : String

def Divider.resolve (p : Props) : Except PropError Divider := do
  let thickness ← p.ranged "thickness" 1 1 8
  let spacing ← p.ranged "spacing" 8 0 64
  return ⟨thickness, spacing, p.color "color" "var(--mf-border)"⟩

structure Spacer where
  height : Double

def Spacer.resolve (p : Props) : Except PropError Spacer := do
  let height ← p.ranged "height" 16 0 400
  return ⟨height⟩

structure Input where
  label : String
  placeholder : String
  type : InputType
  name : Option String
  required : Bool

def Input.resolve (p : Props) : Except PropError Input := do
  let label ← p.text "label" ""
  let placeholder ← p.text "placeholder" ""
  let type ← p.keyword "inputType" InputType.words .text
  let name ← p.shownText "name"
  let required ← p.bool "required" false
  return ⟨label, placeholder, type, name, required⟩

structure ItemList where
  items : List String
  ordered : Bool

def ItemList.resolve (p : Props) : Except PropError ItemList := do
  let items ← p.textList "items"
  let ordered ← p.bool "ordered" false
  return ⟨items, ordered⟩

structure Avatar where
  name : String
  size : Double
  src : Option String

def Avatar.resolve (p : Props) : Except PropError Avatar := do
  let name ← p.text "name" ""
  let size ← p.ranged "size" 48 16 256
  return ⟨name, size, p.url? "src"⟩

/-- The first letters of the first two words in upper case, a question mark when there is none. -/
def Avatar.initials (a : Avatar) : String :=
  let letters := ((Text.words a.name.toList).filterMap List.head?).take 2
  if letters.isEmpty then "?" else String.ofList (Text.upper letters)

def twoFifths : Double := .ofRatio false (2 * Double.scale) 5

def Avatar.fontSize (a : Avatar) : Double := (a.size.mul twoFifths).round

structure Badge where
  text : String
  tone : Tone

def Badge.resolve (p : Props) : Except PropError Badge := do
  let text ← p.text "text" ""
  let tone ← p.keyword "tone" Tone.words .primary
  return ⟨text, tone⟩

structure NavBar where
  title : String
  showBack : Bool

def NavBar.resolve (p : Props) : Except PropError NavBar := do
  let title ← p.text "title" ""
  let showBack ← p.bool "showBack" true
  return ⟨title, showBack⟩

end Component

inductive Component where
  | container (model : Component.Container)
  | layout (model : Component.Layout)
  | text (model : Component.Paragraph)
  | heading (model : Component.Heading)
  | button (model : Component.Button)
  | image (model : Component.Image)
  | card (model : Component.Card)
  | carousel (model : Component.Carousel)
  | sheet (model : Component.Sheet)
  | tabBar (model : Component.TabBar)
  | progress (model : Component.Progress)
  | divider (model : Component.Divider)
  | spacer (model : Component.Spacer)
  | input (model : Component.Input)
  | list (model : Component.ItemList)
  | avatar (model : Component.Avatar)
  | badge (model : Component.Badge)
  | navBar (model : Component.NavBar)

namespace Component

def kind : Component → Kind
  | container _ => .container
  | layout _ => .layout
  | text _ => .text
  | heading _ => .heading
  | button _ => .button
  | image _ => .image
  | card _ => .card
  | carousel _ => .carousel
  | sheet _ => .sheet
  | tabBar _ => .tabBar
  | progress _ => .progress
  | divider _ => .divider
  | spacer _ => .spacer
  | input _ => .input
  | list _ => .list
  | avatar _ => .avatar
  | badge _ => .badge
  | navBar _ => .navBar

def resolve (kind : Kind) (p : Props) : Except PropError Component :=
  match kind with
  | .container => (Container.resolve p).map .container
  | .layout => (Layout.resolve p).map .layout
  | .text => (Paragraph.resolve p).map .text
  | .heading => (Heading.resolve p).map .heading
  | .button => (Button.resolve p).map .button
  | .image => (Image.resolve p).map .image
  | .card => (Card.resolve p).map .card
  | .carousel => (Carousel.resolve p).map .carousel
  | .sheet => (Sheet.resolve p).map .sheet
  | .tabBar => (TabBar.resolve p).map .tabBar
  | .progress => (Progress.resolve p).map .progress
  | .divider => (Divider.resolve p).map .divider
  | .spacer => (Spacer.resolve p).map .spacer
  | .input => (Input.resolve p).map .input
  | .list => (ItemList.resolve p).map .list
  | .avatar => (Avatar.resolve p).map .avatar
  | .badge => (Badge.resolve p).map .badge
  | .navBar => (NavBar.resolve p).map .navBar

theorem exists_of_map_eq_ok {ε α β : Type} {f : α → β} {e : Except ε α} {b : β}
    (h : e.map f = .ok b) : ∃ a, e = .ok a ∧ f a = b := by
  cases e with
  | error => simp [Except.map] at h
  | ok a => exact ⟨a, rfl, by simpa [Except.map] using h⟩

theorem kind_of_resolve {k : Kind} {p : Props} {c : Component} (h : resolve k p = .ok c) :
    c.kind = k := by
  cases k <;> obtain ⟨_, _, rfl⟩ := exists_of_map_eq_ok h <;> rfl

end Component

end MiniApp

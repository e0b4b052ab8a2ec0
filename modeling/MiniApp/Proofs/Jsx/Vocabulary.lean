import MiniApp.Component.ProjectRule
import MiniApp.Proofs.Code.Tokens
import MiniApp.Proofs.Jsx.Reader

set_option autoImplicit false

namespace MiniApp.Jsx

open Code (chars)

def tagNames : List String :=
  ["div", "header", "footer", "section", "p", "h1", "h2", "h3", "h4", "h5", "h6", "span", "button",
    "label", "ol", "ul", "li", "img", "input", "hr", "br", "Carousel", "Sheet", "TabBar"]

def plainNames : List String :=
  ["className", "id", "type", "name", "htmlFor", "placeholder", "required", "disabled", "src",
    "alt", "loading", "role", "aria-label", "aria-hidden", "aria-valuemin", "aria-valuemax",
    "aria-valuenow", "slides", "intervalMs", "autoplay", "height", "triggerLabel", "title",
    "closeLabel", "tabs", "initialIndex"]

def propNames : List String := "style" :: "onClick" :: plainNames

def styleKeys : List String :=
  ["flexDirection", "gap", "padding", "background", "alignItems", "justifyContent", "borderRadius",
    "fontSize", "fontWeight", "textAlign", "color", "width", "height", "objectFit",
    "borderTopWidth", "borderTopColor", "margin"]

def dataKeys : List String := ["src", "alt", "label", "pageId", "icon"]

def Style.script : Style → Script
  | .number d => .number d
  | .text s => .text s

def styleScript (styles : List (String × Style)) : Script :=
  .record (styles.map fun s => (s.1, s.2.script))

/-- The values that a prop of a project may have. An expression is the styles under fixed keys, the
handler of an action, data under fixed keys, or a count. -/
inductive AllowedValue : String → Value → Prop
  | text {name : String} (h : name ∈ plainNames) (value : String) : AllowedValue name (.text value)
  | flag {name : String} (h : name ∈ plainNames) : AllowedValue name .flag
  | data {name : String} (h : name ∈ plainNames) {e : Script} (he : e.IsData dataKeys) :
      AllowedValue name (.expr e.tokens)
  | count {name : String} (h : name ∈ plainNames) (n : Nat) :
      AllowedValue name (.expr (chars (toString n)))
  | styles {styles : List (String × Style)} (h : ∀ s ∈ styles, s.1 ∈ styleKeys) :
      AllowedValue "style" (.expr (styleScript styles).tokens)
  | handler {action : Action} {tokens : List Code.Token}
      (h : action.tokens? ProjectRule.bridge = some tokens) :
      AllowedValue "onClick" (.expr (chars "() => " ++ tokens))

def AllowedProp (p : String × Value) : Prop := p.1 ∈ propNames ∧ AllowedValue p.1 p.2

def Tag.Allowed : Tag → Prop
  | .opening name props => name ∈ tagNames ∧ ∀ p ∈ props, AllowedProp p
  | .selfClosing name props => name ∈ tagNames ∧ ∀ p ∈ props, AllowedProp p
  | .closing name => name ∈ tagNames

def hasBreak (s : String) : Bool := s.toList.any fun c => c == '\n' || c == '\r'

def Attr.value : Attr → Value
  | .text value => if hasBreak value then .expr [.literal value] else .text value
  | .flag => .flag
  | .expr code => .expr ((Code.read? code).getD [])

def isPlain : String × Attr → Bool
  | (_, .expr _) => false
  | (name, _) => plainNames.contains name

inductive SafeAttr : String × Attr → Prop
  | plain {a : String × Attr} (h : isPlain a = true) : SafeAttr a
  | data {name : String} (h : name ∈ plainNames) {e : Script} (he : e.IsData dataKeys) :
      SafeAttr (name, .expr e.render)
  | count {name : String} (h : name ∈ plainNames) (n : Nat) : SafeAttr (name, .expr (toString n))
  | styles {styles : List (String × Style)} (h : ∀ s ∈ styles, s.1 ∈ styleKeys) :
      SafeAttr ("style", .expr (styleScript styles).render)
  | handler {action : Action} {code : String}
      (h : action.handler? ProjectRule.bridge = some code) :
      SafeAttr ("onClick", .expr (ProjectRule.onPress code))

def classAttr (classes : List String) : List (String × Attr) :=
  if classes.isEmpty then [] else [("className", .text (" ".intercalate classes))]

def styleAttr (styles : List (String × Style)) : List (String × Attr) :=
  if styles.isEmpty then [] else [("style", .expr (styleScript styles).render)]

def attributes (h : Head) : List (String × Attr) :=
  classAttr h.classes ++ h.attrs ++ styleAttr h.styles

def props (h : Head) : List (String × Value) := (attributes h).map fun a => (a.1, a.2.value)

structure SafeHead (h : Head) : Prop where
  name : h.name ∈ tagNames
  classes : ∀ name ∈ h.classes, hasBreak name = false
  attrs : ∀ a ∈ h.attrs, SafeAttr a
  styles : ∀ s ∈ h.styles, s.1 ∈ styleKeys

def isPlainHead (h : Head) : Bool :=
  tagNames.contains h.name && h.classes.all (!hasBreak ·) && h.attrs.all isPlain &&
    h.styles.all fun s => styleKeys.contains s.1

theorem safeHead_of_isPlainHead {h : Head} {attrs : List (String × Attr)}
    (plain : isPlainHead h = true) (safe : ∀ a ∈ attrs, SafeAttr a) :
    SafeHead { h with attrs := h.attrs ++ attrs } := by
  simp only [isPlainHead, Bool.and_eq_true, List.all_eq_true, List.contains_iff_mem,
    Bool.not_eq_true'] at plain
  obtain ⟨⟨⟨name, classes⟩, own⟩, styles⟩ := plain
  exact ⟨name, classes, List.forall_mem_append.2 ⟨fun a ha => .plain (own a ha), safe⟩, styles⟩

theorem all_isNameChar_tagNames :
    ∀ name ∈ tagNames, name.toList ≠ [] ∧ name.toList.all isNameChar = true := by
  decide +kernel

theorem all_isNameChar_propNames :
    ∀ name ∈ propNames, name.toList ≠ [] ∧ name.toList.all isNameChar = true := by
  decide +kernel

theorem all_isNameChar_styleKeys : ∀ key ∈ styleKeys, key.toList.all isNameChar = true := by
  decide +kernel

theorem inert_of_all_isNameChar {name : String} (h : name.toList.all isNameChar = true) :
    Code.Inert name := by
  have plain : (Code.specials.all fun c => !isNameChar c) = true := by decide
  refine fun c hc => decide_eq_true fun special => ?_
  simpa [List.all_eq_true.1 h c hc] using List.all_eq_true.1 plain c special

theorem inert_styleKeys : ∀ key ∈ styleKeys, Code.Inert key :=
  fun key hk => inert_of_all_isNameChar (all_isNameChar_styleKeys key hk)

theorem inert_dataKeys : ∀ key ∈ dataKeys, Code.Inert key := by decide

theorem AllowedValue.mem_propNames {name : String} {value : Value} (h : AllowedValue name value) :
    name ∈ propNames := by
  cases h with
  | text h | flag h | data h | count h => exact .tail _ (.tail _ h)
  | styles | handler => decide

section Expressions

theorem readable_styleScript {styles : List (String × Style)}
    (h : ∀ s ∈ styles, Code.Inert s.1) : (styleScript styles).Readable := by
  refine Script.readable_record (List.forall_mem_map.2 fun s hs => ?_)
  refine ⟨h s hs, ?_⟩
  cases s.2 with
  | number d => exact Script.readable_number d
  | text value => exact Script.readable_text value

theorem inert_count (n : Nat) : Code.Inert (toString n) :=
  Numeral.forall_toString (fun _ => Code.isInert_of_isDigit) n

theorem SafeAttr.reads {name code : String} (safe : SafeAttr (name, .expr code)) :
    ∃ tokens, Code.Reads code tokens ∧ AllowedValue name (.expr tokens) := by
  cases safe with
  | plain h => exact absurd h Bool.false_ne_true
  | data h he => exact ⟨_, he.readable inert_dataKeys, .data h he⟩
  | count h n => exact ⟨_, Code.reads_chars (inert_count n), .count h n⟩
  | styles h =>
    exact ⟨_, readable_styleScript fun s hs => inert_styleKeys s.1 (h s hs), .styles h⟩
  | handler h =>
    obtain ⟨tokens, ht, reads⟩ := reads_handler (by decide) h
    have arrow : Code.Reads "() => " (chars "() => ") := Code.leads_of_run (by decide)
    exact ⟨_, arrow.append reads, .handler ht⟩

end Expressions

theorem mem_plainNames_of_isPlain {name : String} {attr : Attr} (h : isPlain (name, attr) = true) :
    name ∈ plainNames := by
  cases attr with
  | text | flag => exact List.contains_iff_mem.1 h
  | expr => exact absurd h Bool.false_ne_true

theorem allowedValue_of_safe {a : String × Attr} (safe : SafeAttr a) :
    AllowedValue a.1 a.2.value := by
  obtain ⟨name, value | _ | code⟩ := a
  · cases safe with
    | plain h =>
      have hn := mem_plainNames_of_isPlain h
      change AllowedValue name (if _ then _ else _)
      split
      · exact .data hn (.text value)
      · exact .text hn value
  · cases safe with
    | plain h => exact .flag (mem_plainNames_of_isPlain h)
  · obtain ⟨tokens, reads, allowed⟩ := safe.reads
    change AllowedValue name (.expr ((Code.read? code).getD []))
    rw [reads.read?_eq]
    exact allowed

section Heads

variable {h : Head} (safe : SafeHead h)
include safe

theorem SafeHead.hasBreak_classes : hasBreak (" ".intercalate h.classes) = false := by
  have classes := safe.classes
  generalize h.classes = names at classes
  induction names with
  | nil => rfl
  | cons name names ih =>
    rw [List.forall_mem_cons] at classes
    cases names with
    | nil => simpa using classes.1
    | cons name' names =>
      have rest := ih classes.2
      rw [hasBreak] at rest ⊢
      have first := classes.1
      rw [hasBreak] at first
      rw [String.intercalate_cons_cons, String.toList_append, String.toList_append,
        List.any_append, List.any_append, rest, first]
      rfl

theorem safeAttr_of_mem_attributes {a : String × Attr} (ha : a ∈ attributes h) : SafeAttr a := by
  rw [attributes, List.mem_append, List.mem_append] at ha
  rcases ha with (ha | ha) | ha
  · rw [classAttr] at ha
    split at ha
    · exact absurd ha List.not_mem_nil
    · cases List.mem_singleton.1 ha
      exact .plain rfl
  · exact safe.attrs a ha
  · rw [styleAttr] at ha
    split at ha
    · exact absurd ha List.not_mem_nil
    · cases List.mem_singleton.1 ha
      exact .styles safe.styles

theorem allowedProp_of_mem_props : ∀ p ∈ props h, AllowedProp p := by
  intro p hp
  obtain ⟨a, ha, rfl⟩ := List.mem_map.1 hp
  have allowed := allowedValue_of_safe (safeAttr_of_mem_attributes safe ha)
  exact ⟨allowed.mem_propNames, allowed⟩

end Heads

end MiniApp.Jsx

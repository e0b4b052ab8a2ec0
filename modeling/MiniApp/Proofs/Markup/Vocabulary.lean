import MiniApp.Component.DocumentRule
import MiniApp.Proofs.Markup.Escaped

set_option autoImplicit false

namespace MiniApp.Markup

def blockNames : List String :=
  ["div", "header", "footer", "section", "nav", "p", "h1", "h2", "h3", "h4", "h5", "h6", "span",
    "button", "label", "ol", "ul", "li"]

def voidNames : List String := ["img", "input", "hr", "br"]

def tagNames : List String := blockNames ++ voidNames

def plainNames : List String :=
  ["class", "style", "id", "type", "name", "for", "placeholder", "required", "disabled", "src",
    "alt", "loading", "draggable", "role", "aria-label", "aria-labelledby", "aria-modal",
    "aria-hidden", "aria-selected", "aria-valuemin", "aria-valuemax", "aria-valuenow",
    "data-index", "data-page", "data-interval", "data-autoplay", "data-mf-carousel",
    "data-mf-sheet", "data-mf-sheet-open", "data-mf-sheet-close", "data-mf-tabbar"]

def attrNames : List String := "onclick" :: plainNames

def isEvent (name : String) : Bool := ['o', 'n'].isPrefixOf name.toList

/-- An attribute of a document: the only one that is run as code is the handler of an action. -/
def AllowedAttr (a : String × Option String) : Prop :=
  a.1 ∈ attrNames ∧
    (isEvent a.1 = true → a.1 = "onclick" ∧ ∃ action code,
      Action.handler? DocumentRule.bridge action = some code ∧ a.2 = some code)

def Tag.Allowed : Tag → Prop
  | .opening name attrs => name ∈ tagNames ∧ ∀ a ∈ attrs, AllowedAttr a
  | .closing name => name ∈ blockNames

def Attr.value : Attr → Option String
  | .text value => some value
  | .flag => none
  | .script code => some code

def isPlain : String × Attr → Bool
  | (_, .script _) => false
  | (name, _) => plainNames.contains name

def SafeAttr (a : String × Attr) : Prop :=
  isPlain a = true ∨
    ∃ action code, Action.handler? DocumentRule.bridge action = some code ∧
      a = ("onclick", .script code)

def classAttr (classes : List String) : List (String × Attr) :=
  if classes.isEmpty then [] else [("class", .text (" ".intercalate classes))]

def styleAttr (styles : List (String × String)) : List (String × Attr) :=
  if styles.isEmpty then []
  else [("style", .text (";".intercalate (styles.map fun s => s.1 ++ ":" ++ s.2)))]

def attributes (h : Head) : List (String × Attr) :=
  classAttr h.classes ++ h.attrs ++ styleAttr h.styles

def startTag (h : Head) : Tag := .opening h.name ((attributes h).map fun a => (a.1, a.2.value))

structure SafeHead (h : Head) : Prop where
  name : h.name ∈ if h.isVoid then voidNames else blockNames
  attrs : ∀ a ∈ h.attrs, SafeAttr a

theorem all_isNameChar_tagNames :
    ∀ name ∈ tagNames, name.toList ≠ [] ∧ name.toList.all isNameChar = true := by
  decide +kernel

/-- Tags that the reader can read, whatever their element is called. -/
structure Legible (h : Head) : Prop where
  name : h.name.toList ≠ [] ∧ h.name.toList.all isNameChar = true
  attrs : ∀ a ∈ h.attrs, SafeAttr a

theorem all_isNameChar_attrNames :
    ∀ name ∈ attrNames, name.toList ≠ [] ∧ name.toList.all isNameChar = true := by
  decide +kernel

theorem isEvent_plainNames : ∀ name ∈ plainNames, isEvent name = false := by decide +kernel

theorem notMem_voidNames : ∀ name ∈ blockNames, name ∉ voidNames := by decide

theorem SafeHead.mem_tagNames {h : Head} (safe : SafeHead h) : h.name ∈ tagNames := by
  have hn := safe.name
  split at hn
  · exact List.mem_append_right _ hn
  · exact List.mem_append_left _ hn

theorem SafeHead.legible {h : Head} (safe : SafeHead h) : Legible h :=
  ⟨all_isNameChar_tagNames h.name safe.mem_tagNames, safe.attrs⟩

theorem allowedAttr_of_mem_plainNames {name : String} (h : name ∈ plainNames)
    (value : Option String) : AllowedAttr (name, value) :=
  ⟨List.mem_cons_of_mem _ h, fun he => absurd he (by simp [isEvent_plainNames name h])⟩

theorem allowedAttr_of_safe {a : String × Attr} (safe : SafeAttr a) :
    AllowedAttr (a.1, a.2.value) := by
  rcases safe with h | ⟨action, code, hcode, rfl⟩
  · obtain ⟨name, _ | _ | _⟩ := a
    · exact allowedAttr_of_mem_plainNames (List.contains_iff_mem.1 h) _
    · exact allowedAttr_of_mem_plainNames (List.contains_iff_mem.1 h) _
    · exact absurd h Bool.false_ne_true
  · exact ⟨List.mem_cons_self, fun _ => ⟨rfl, action, code, hcode, rfl⟩⟩

theorem safeAttr_of_mem_attributes {h : Head} (safe : ∀ a ∈ h.attrs, SafeAttr a)
    {a : String × Attr} (ha : a ∈ attributes h) : SafeAttr a := by
  rw [attributes, List.mem_append, List.mem_append] at ha
  rcases ha with (ha | ha) | ha
  · rw [classAttr] at ha
    split at ha
    · exact absurd ha List.not_mem_nil
    · cases List.mem_singleton.1 ha
      exact .inl rfl
  · exact safe a ha
  · rw [styleAttr] at ha
    split at ha
    · exact absurd ha List.not_mem_nil
    · cases List.mem_singleton.1 ha
      exact .inl rfl

theorem startTag_allowed {h : Head} (safe : SafeHead h) : (startTag h).Allowed := by
  refine ⟨safe.mem_tagNames, fun a ha => ?_⟩
  obtain ⟨b, hb, rfl⟩ := List.mem_map.1 ha
  exact allowedAttr_of_safe (safeAttr_of_mem_attributes safe.attrs hb)

end MiniApp.Markup

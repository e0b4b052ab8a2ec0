import MiniApp.Project.Basic
import MiniApp.Proofs.Document.Parts
import MiniApp.Proofs.Json.Layout
import MiniApp.Proofs.Template

set_option autoImplicit false

namespace MiniApp.Manifest

open Json (Spells SpellFields block stringBlock stringText spells_string spells_true spells_block
  spells_stringBlock)
open Template (weave fixedTexts)

def scripts : List (String × String) :=
  [("dev", "vite"), ("build", "tsc && vite build"), ("preview", "vite preview")]

def dependencies : List (String × String) := [("react", "^18.3.1"), ("react-dom", "^18.3.1")]

def toolDependencies : List (String × String) :=
  [("@types/react", "^18.3.3"), ("@types/react-dom", "^18.3.0"), ("@vitejs/plugin-react", "^4.3.1"),
    ("typescript", "^5.5.3"), ("vite", "^5.4.0")]

def texts (slug description : String) : List (String × List Char) :=
  [("name", (stringText slug).toList), ("private", ['t', 'r', 'u', 'e']),
    ("version", (stringText "0.1.0").toList), ("description", (stringText description).toList),
    ("type", (stringText "module").toList), ("scripts", stringBlock 1 scripts),
    ("dependencies", stringBlock 1 dependencies), ("devDependencies", stringBlock 1 toolDependencies)]

def strings (entries : List (String × String)) : Json :=
  .object (sortFields (entries.map fun e => (e.1, .string e.2)))

def fields (slug description : String) : Fields :=
  [("name", .string slug), ("private", .bool true), ("version", .string "0.1.0"),
    ("description", .string description), ("type", .string "module"), ("scripts", strings scripts),
    ("dependencies", strings dependencies), ("devDependencies", strings toolDependencies)]

theorem spellFields (slug description : String) :
    SpellFields 1 (texts slug description) (fields slug description) := by
  have text (s : String) : Spells 1 (stringText s).toList (.string s) :=
    (spells_string s).mono (Nat.zero_le 1)
  have word : Spells 1 ['t', 'r', 'u', 'e'] (.bool true) := spells_true.mono (Nat.zero_le 1)
  have group {entries : List (String × String)} (shows : entries ≠ []) :
      Spells 1 (stringBlock 1 entries) (strings entries) := spells_stringBlock shows 1
  simp only [SpellFields, texts, fields, List.forall₂_cons, List.forall₂_nil_left_iff, true_and,
    and_true]
  exact ⟨text slug, word, text _, text description, text _, group (List.cons_ne_nil _ _),
    group (List.cons_ne_nil _ _), group (List.cons_ne_nil _ _)⟩

def text (slug description : String) : String :=
  weave (fixedTexts Asset.packageManifest.pieces) [stringText slug, stringText description]

set_option maxRecDepth 10000 in
theorem toList_text (slug description : String) :
    (text slug description).toList = block 0 (texts slug description) ++ ['\n'] := by
  rw [text, Asset.packageManifest, block, List.cons_append, Json.fieldLines_append]
  simp only [fixedTexts, List.modifyHead_cons, weave, String.toList_append, String.toList_empty,
    Asset.toList_fileText, List.flatMap_cons, List.flatMap_nil, texts, stringBlock, scripts,
    dependencies, toolDependencies, List.map_cons, List.map_nil, block, Json.fieldLines,
    Json.fieldLine]
  generalize (stringText slug).toList = name
  generalize (stringText description).toList = described
  simp only [Json.toList_stringText]
  repeat rw [String.toList_ofList]
  simp only [List.append_assoc, List.nil_append, List.cons_append, List.append_nil]
  rfl

theorem read_text (slug description : String) :
    Json.read (text slug description) = .ok (.object (sortFields (fields slug description))) := by
  rw [Json.read, toList_text]
  exact (spells_block (spellFields slug description) (List.cons_ne_nil _ _) 0).readChars_eq
    (by decide) (List.forall_mem_singleton.2 rfl)

theorem nodup_keys (slug description : String) : ((fields slug description).map Prod.fst).Nodup := by
  have keys : (fields slug description).map Prod.fst = (fields "" "").map Prod.fst := rfl
  rw [keys]
  decide

def field? (key content : String) : Option Json :=
  match Json.read content with
  | .ok (.object fields) => fields.lookup key
  | _ => none

theorem field?_text {slug description key : String} {v : Json}
    (h : (key, v) ∈ fields slug description) : field? key (text slug description) = some v := by
  rw [field?, read_text]
  exact (lookup_sortFields (nodup_keys slug description)).2 h

end MiniApp.Manifest

import MiniApp.Proofs.Archive.Package
import MiniApp.Proofs.Document.Contents
import MiniApp.Proofs.Project.Manifest

set_option autoImplicit false

namespace MiniApp

open DocumentScript (constant? declares isDeclaration untilSemicolon constant?_append constant?_cons
  untilSemicolon_append whole_of_isCode)
open Json (stringText)
open Template (weave fixedTexts fixedChars)
open Text (Opens cut? exists_cut opens_eq_true_iff opens_of_notMem)

section Constants

def Passed (name : String) (line : List Char) : Prop := (declares name).toList.isPrefixOf line = false

instance (name : String) (line : List Char) : Decidable (Passed name line) :=
  inferInstanceAs (Decidable (_ = false))

def declaration (name value : String) : List Char := (declares name).toList ++ (value.toList ++ [';'])

/-- The first line that declares a constant gives its value. -/
theorem constant?_of_lines {name value content : String} (front rest : List (List Char))
    (split : Text.lines content.toList = front ++ declaration name value :: rest)
    (others : ∀ line ∈ front, Passed name line) :
    constant? name (Text.linesOf content) = some [value] := by
  have passed : ∀ line ∈ front.map String.ofList, isDeclaration name line = false := by
    rw [List.forall_mem_map]
    intro line hl
    rw [isDeclaration, String.toList_ofList]
    exact others line hl
  have here : String.ofList (declaration name value) = declares name ++ (value ++ ";") :=
    String.toList_injective (by simp [declaration])
  rw [Text.linesOf, split, List.map_append, List.map_cons, here, constant?_append passed,
    constant?_cons]
  exact untilSemicolon_append (List.forall_mem_nil _) value _

theorem lines_declaration_append {name value : String} (named : IsCode (declares name))
    (code : IsCode value) (rest : List Char) :
    Text.lines ((declares name).toList ++ (value.toList ++ ';' :: '\n' :: rest)) =
      declaration name value :: Text.lines rest := by
  have line : Whole (declares name ++ value ++ ";") :=
    whole_of_isCode ((named.append code).append (by decide))
  have written : (declares name ++ value ++ ";").toList = declaration name value := by
    simp [declaration]
  have cut := Text.lines_append_newline line.unbroken line.ends rest
  rw [written] at cut
  rw [← cut, declaration]
  simp only [List.append_assoc, List.singleton_append]

/-- The text that a constant of some code stands for, when its value is a string literal. -/
def textConstant? (name content : String) : Option String :=
  match constant? name (Text.linesOf content) with
  | some [code] =>
    match Code.read? code with
    | some [.literal text] => some text
    | _ => none
  | _ => none

theorem textConstant?_literal {name content text : String}
    (h : constant? name (Text.linesOf content) = some [Escape.literal text]) :
    textConstant? name content = some text := by
  rw [textConstant?, h]
  simp only [(Code.reads_literal text).read?_eq]

theorem textConstant?_null {name content : String}
    (h : constant? name (Text.linesOf content) = some ["null"]) :
    textConstant? name content = none := by
  have read : Code.read? "null" = some (Code.chars "null") :=
    (Code.reads_chars (by decide)).read?_eq
  rw [textConstant?, h]
  simp only [read]
  rfl

theorem constant?_of_split {name value content : String} (front rest : List Char)
    (named : IsCode (declares name)) (code : IsCode value)
    (split : content.toList =
      front ++ '\n' :: ((declares name).toList ++ (value.toList ++ ';' :: '\n' :: rest)))
    (others : ∀ line ∈ Text.lines (front ++ ['\n']), Passed name line) :
    constant? name (Text.linesOf content) = some [value] := by
  refine constant?_of_lines _ (Text.lines rest) ?_ others
  rw [split, Text.lines_append_cons_newline, lines_declaration_append named code]

theorem literal_ne_null (text : String) : Escape.literal text ≠ "null" := by
  intro same
  have quote := congrArg (fun s => s.toList.head?) same
  simp [Escape.literal] at quote

end Constants

section Bridge

def timeoutConstant : String := "BRIDGE_TIMEOUT_MS"

theorem bridge_cut :
    (cut? ('\n' :: (declares timeoutConstant).toList) (fixedChars Asset.bridgeModule 0)).any
      (fun r => r.2.isEmpty &&
        (Text.lines (r.1 ++ ['\n'])).all fun line => decide (Passed timeoutConstant line)) = true := by
  simp only [fixedChars, fixedTexts, Asset.bridgeModule, List.modifyHead_cons,
    List.getElem?_cons_zero, Option.getD_some, String.toList_append, String.toList_empty,
    Asset.toList_fileText, List.flatMap_cons, List.flatMap_nil]
  repeat rw [String.toList_ofList]
  decide +kernel

theorem bridge_end : ∃ rest, fixedChars Asset.bridgeModule 1 = ';' :: '\n' :: rest := by
  obtain ⟨lines, written⟩ : ∃ lines, fixedChars Asset.bridgeModule 1 =
      (Asset.fileText (";" :: lines) ++ "").toList := ⟨_, rfl⟩
  rw [written, String.append_empty, Asset.toList_fileText, List.flatMap_cons]
  exact ⟨_, rfl⟩

theorem constant?_bridge {timeout : String} (code : IsCode timeout) :
    constant? timeoutConstant
      (Text.linesOf (weave (fixedTexts Asset.bridgeModule.pieces) [timeout])) = some [timeout] := by
  obtain ⟨front, behind, start, passed⟩ := exists_cut bridge_cut
  obtain ⟨rest, finish⟩ := bridge_end
  simp only [Bool.and_eq_true, List.isEmpty_iff, List.all_eq_true, decide_eq_true_eq] at passed
  have written : weave (fixedTexts Asset.bridgeModule.pieces) [timeout] =
      String.ofList (fixedChars Asset.bridgeModule 0) ++ timeout ++
        String.ofList (fixedChars Asset.bridgeModule 1) := by
    rw [fixedChars, fixedChars, String.ofList_toList, String.ofList_toList]
    rfl
  refine constant?_of_split front rest (by decide) code ?_ passed.2
  rw [written, String.toList_append, String.toList_append, String.toList_ofList,
    String.toList_ofList, start, finish, passed.1, List.append_nil]
  simp only [List.append_assoc, List.cons_append]

end Bridge

section Privacy

def nameConstant : String := "APP_NAME"

def contactConstant : String := "CONTACT_EMAIL: string | null"

theorem weave_privacy (name contact : String) : ∃ lines,
    weave (fixedTexts Asset.privacyPage.pieces) [name, contact] =
      declares nameConstant ++ name ++ (Asset.fileText [";"] ++ declares contactConstant ++
        contact ++ Asset.fileText (";" :: lines)) := by
  have names : "const APP_NAME = " = declares nameConstant ∧
      "const CONTACT_EMAIL: string | null = " = declares contactConstant := by decide
  rw [Asset.privacyPage]
  simp only [fixedTexts, List.modifyHead_cons, weave, String.append_empty, names.1, names.2]
  exact ⟨_, rfl⟩

theorem toList_privacy (name contact : String) : ∃ rest,
    (weave (fixedTexts Asset.privacyPage.pieces) [name, contact]).toList =
      (declares nameConstant).toList ++ (name.toList ++ ';' :: '\n' ::
        ((declares contactConstant).toList ++ (contact.toList ++ ';' :: '\n' :: rest))) := by
  obtain ⟨lines, written⟩ := weave_privacy name contact
  simp only [written, String.toList_append, Asset.toList_fileText, List.flatMap_cons,
    List.flatMap_nil, List.append_assoc]
  exact ⟨_, rfl⟩

theorem constant?_privacy {name contact : String} (named : IsCode name) (reached : IsCode contact) :
    constant? nameConstant
        (Text.linesOf (weave (fixedTexts Asset.privacyPage.pieces) [name, contact])) = some [name] ∧
      constant? contactConstant
        (Text.linesOf (weave (fixedTexts Asset.privacyPage.pieces) [name, contact])) =
          some [contact] := by
  obtain ⟨rest, written⟩ := toList_privacy name contact
  have lines : Text.lines (weave (fixedTexts Asset.privacyPage.pieces) [name, contact]).toList =
      declaration nameConstant name :: declaration contactConstant contact :: Text.lines rest := by
    rw [written, lines_declaration_append (by decide) named,
      lines_declaration_append (by decide) reached]
  -- Whatever the name is, its line starts with the name of another constant.
  have other : Passed contactConstant (declaration nameConstant name) := rfl
  exact ⟨constant?_of_lines [] _ lines (List.forall_mem_nil _),
    constant?_of_lines [_] _ lines (List.forall_mem_singleton.2 other)⟩

end Privacy

section Title

open Document (headWords)

def title? (content : String) : Option String := do
  let (_, text) ← Markup.element? "title" content
  Markup.decoded? text

theorem page_cuts :
    ((cut? ('<' :: "title".toList) (fixedChars Asset.indexPage 2)).any fun r =>
      Text.opens headWords r.1 && r.2 == ['>']) = true ∧
    ((cut? ('<' :: '/' :: ("title".toList ++ ['>'])) (fixedChars Asset.indexPage 3)).any fun r =>
      r.1.isEmpty) = true ∧
    Text.opens headWords (fixedChars Asset.indexPage 0) = true ∧
    Text.opens headWords (fixedChars Asset.indexPage 1) = true := by
  simp only [fixedChars, fixedTexts, Asset.indexPage, List.modifyHead_cons,
    List.getElem?_cons_succ, List.getElem?_cons_zero, Option.getD_some, String.toList_append,
    String.toList_empty, Asset.toList_fileText, List.flatMap_cons, List.flatMap_nil]
  repeat rw [String.toList_ofList]
  decide +kernel

theorem title?_page (darkMode : Bool) (name : String) :
    title? (weave (fixedTexts Asset.indexPage.pieces)
      ["en", Theme.name darkMode, Escape.markup name]) = some name := by
  obtain ⟨cut2, cut3, opens0, opens1⟩ := page_cuts
  obtain ⟨before, end2, h2, p2⟩ := exists_cut cut2
  obtain ⟨start3, after, h3, p3⟩ := exists_cut cut3
  simp only [Bool.and_eq_true, opens_eq_true_iff, List.isEmpty_iff, beq_iff_eq] at p2 p3 opens0 opens1
  have written : weave (fixedTexts Asset.indexPage.pieces)
      ["en", Theme.name darkMode, Escape.markup name] =
        String.ofList (fixedChars Asset.indexPage 0) ++ "en" ++
          (String.ofList (fixedChars Asset.indexPage 1) ++ Theme.name darkMode ++
            (String.ofList (fixedChars Asset.indexPage 2) ++ Escape.markup name ++
              String.ofList (fixedChars Asset.indexPage 3))) := by
    simp only [fixedChars, String.ofList_toList]
    rfl
  have split : (weave (fixedTexts Asset.indexPage.pieces)
      ["en", Theme.name darkMode, Escape.markup name]).toList =
        (fixedChars Asset.indexPage 0 ++ ("en".toList ++ (fixedChars Asset.indexPage 1 ++
          ((Theme.name darkMode).toList ++ before)))) ++
            (Markup.elementChars "title" [] (Escape.markup name).toList ++ after) := by
    rw [written]
    simp only [String.toList_append, String.toList_ofList, h2, h3, p2.2, p3, Markup.elementChars,
      List.append_assoc, List.cons_append, List.nil_append]
  -- No part before the title has a bracket that starts another title.
  have opened := opens0.append ((opens_of_notMem (by decide : '<' ∉ "en".toList)).append
    (opens1.append ((opens_of_notMem (Document.notMem_theme darkMode)).append p2.1)))
  have apart : ∀ w ∈ headWords, ¬ w <+: "title".toList ∧ ¬ "title".toList <+: w := by decide
  have plain : Opens [] (Escape.markup name).toList := opens_of_notMem (Markup.notMem_markup name)
  have found := Markup.element?_eq split (opened.passes apart) List.not_mem_nil
    (plain.passes (List.forall_mem_nil _))
  rw [title?, found, String.ofList_toList]
  simp only [Option.bind_eq_bind, Option.bind_some, Markup.decoded?_markup]

end Title

namespace Project

open Template (Filled filled_fill isFlat)

/-- What the files of a project say about its options. Each file is rendered from its template, and
what stands in the places of that template gives the options back. -/
structure Carries (o : ProjectOptions) (p : Project) : Prop where
  slug : p.slug = Slug.ofName o.name
  manifest : ∃ content, p.get? "package.json" = some content ∧
    Filled Asset.packageManifest (manifestValues o.name p.slug)
      [stringText p.slug, stringText (o.name ++ " mini app")] content ∧
    Manifest.field? "name" content = some (.string p.slug) ∧
    Manifest.field? "description" content = some (.string (o.name ++ " mini app"))
  page : ∃ content, p.get? "index.html" = some content ∧
    Filled Asset.indexPage (pageValues o)
      ["en", Theme.name o.darkMode, Escape.markup o.name] content ∧
    title? content = some o.name
  bridge : ∃ content, p.get? "src/bridge.ts" = some content ∧
    Filled Asset.bridgeModule (bridgeValues o) [toString o.timeout] content ∧
    constant? timeoutConstant (Text.linesOf content) = some [toString o.timeout]
  privacy : o.submission = true → ∃ content, p.get? "src/pages/PrivacyPolicy.tsx" = some content ∧
    Filled Asset.privacyPage (privacyValues o)
      [Escape.literal o.name, (o.contact.map Escape.literal).getD "null"] content ∧
    textConstant? nameConstant content = some o.name ∧
    textConstant? contactConstant content = o.contact ∧
    (constant? contactConstant (Text.linesOf content) = some ["null"] ↔ o.contact = none)

section Files

theorem isFlat_templates : ∀ t ∈ [Asset.packageManifest, Asset.indexPage, Asset.bridgeModule,
    Asset.privacyPage], ∀ p ∈ t.pieces, isFlat p = true := by
  simp only [← List.all_eq_true]
  rfl

variable (o : ProjectOptions)

theorem filled_manifest (slug : String) : Filled Asset.packageManifest (manifestValues o.name slug)
    [stringText slug, stringText (o.name ++ " mini app")]
      (Asset.packageManifest.fill (manifestValues o.name slug)) :=
  filled_fill (isFlat_templates _ (by simp)) _

theorem filled_page : Filled Asset.indexPage (pageValues o)
    ["en", Theme.name o.darkMode, Escape.markup o.name] (Asset.indexPage.fill (pageValues o)) :=
  filled_fill (isFlat_templates _ (by simp)) _

theorem filled_bridge : Filled Asset.bridgeModule (bridgeValues o) [toString o.timeout]
    (Asset.bridgeModule.fill (bridgeValues o)) :=
  filled_fill (isFlat_templates _ (by simp)) _

theorem filled_privacy : Filled Asset.privacyPage (privacyValues o)
    [Escape.literal o.name, (o.contact.map Escape.literal).getD "null"]
      (Asset.privacyPage.fill (privacyValues o)) :=
  filled_fill (isFlat_templates _ (by simp)) _

end Files

theorem contact_privacy (o : ProjectOptions) {content : String}
    (written : constant? contactConstant (Text.linesOf content) =
      some [(o.contact.map Escape.literal).getD "null"]) :
    textConstant? contactConstant content = o.contact ∧
      (constant? contactConstant (Text.linesOf content) = some ["null"] ↔ o.contact = none) := by
  cases reached : o.contact with
  | none =>
    rw [reached] at written
    exact ⟨textConstant?_null written, iff_of_true written rfl⟩
  | some address =>
    rw [reached] at written
    refine ⟨textConstant?_literal written, iff_of_false (fun null => ?_) (Option.some_ne_none _)⟩
    rw [written] at null
    exact literal_ne_null address (List.cons.inj (Option.some.inj null)).1

section Assembled

variable (o : ProjectOptions) (app : AppSource) (isPlaceholder : Bool)

theorem slug_assemble : (assemble o app isPlaceholder).slug = Slug.ofName o.name := by
  rw [assemble]

theorem get?_manifest : (assemble o app isPlaceholder).get? "package.json" =
    some (Asset.packageManifest.fill (manifestValues o.name (Slug.ofName o.name))) := by
  simp [assemble, get?, scaffold]

theorem get?_page : (assemble o app isPlaceholder).get? "index.html" =
    some (Asset.indexPage.fill (pageValues o)) := by
  simp [assemble, get?, scaffold]

theorem get?_bridge : (assemble o app isPlaceholder).get? "src/bridge.ts" =
    some (Asset.bridgeModule.fill (bridgeValues o)) := by
  simp [assemble, get?, scaffold]

theorem get?_privacy (submitted : o.submission = true) :
    (assemble o app isPlaceholder).get? "src/pages/PrivacyPolicy.tsx" =
      some (Asset.privacyPage.fill (privacyValues o)) := by
  simp [assemble, get?, scaffold, submitted]

/-- Whatever app a project holds, its other files are those of its options. -/
theorem get?_assemble_congr (app' : AppSource) (isPlaceholder' : Bool) {path : String}
    (other : path ≠ "src/App.tsx") :
    (assemble o app isPlaceholder).get? path = (assemble o app' isPlaceholder').get? path := by
  obtain ⟨before, behind, files⟩ : ∃ before behind, ∀ app b, (assemble o app b).files =
      before ++ ⟨"src/App.tsx", app.text⟩ :: behind :=
    ⟨(assemble o app true).files.take 6, (assemble o app true).files.drop 7, fun _ _ => rfl⟩
  have skipped (app : AppSource) :
      (before ++ ⟨"src/App.tsx", app.text⟩ :: behind).find? (fun f => f.path == path) =
        (before ++ behind).find? fun f => f.path == path := by
    rw [List.find?_append, List.find?_append, List.find?_cons_of_neg (by simpa using other.symm)]
  rw [get?, get?, files, files, skipped, skipped]

theorem carries_assemble : Carries o (assemble o app isPlaceholder) where
  slug := slug_assemble o app isPlaceholder
  manifest := by
    have filled := filled_manifest o (Slug.ofName o.name)
    rw [slug_assemble]
    refine ⟨_, get?_manifest o app isPlaceholder, filled, ?_⟩
    rw [filled.woven]
    exact ⟨Manifest.field?_text (by simp [Manifest.fields]),
      Manifest.field?_text (by simp [Manifest.fields])⟩
  page := by
    refine ⟨_, get?_page o app isPlaceholder, filled_page o, ?_⟩
    rw [(filled_page o).woven]
    exact title?_page o.darkMode o.name
  bridge := by
    have digits : IsCode (toString o.timeout) :=
      Numeral.forall_toString (fun _ => isCodeChar_of_isDigit) o.timeout
    refine ⟨_, get?_bridge o app isPlaceholder, filled_bridge o, ?_⟩
    rw [(filled_bridge o).woven]
    exact constant?_bridge digits
  privacy submitted := by
    have reached : IsCode ((o.contact.map Escape.literal).getD "null") := by
      cases o.contact with
      | none => decide
      | some address => exact isCode_literal address
    obtain ⟨name, contact⟩ := constant?_privacy (isCode_literal o.name) reached
    rw [← (filled_privacy o).woven] at name contact
    exact ⟨_, get?_privacy o app isPlaceholder submitted, filled_privacy o,
      textConstant?_literal name, contact_privacy o contact⟩

theorem ofText_eq_assemble (text : String) :
    ∃ app isPlaceholder, ofText o text = assemble o app isPlaceholder := by
  rw [ofText]
  cases Graph.ofText text with
  | ok g => exact ⟨_, _, rfl⟩
  | error e => exact ⟨_, _, rfl⟩

end Assembled

/-- The options of a project can be read back from its files, whatever characters they hold and
whatever the text of the graph is. The files that they are written into are those templates with
nothing but the values of the options in their places, and the graph decides the app component and
no other file. -/
theorem options_survive (o : ProjectOptions) :
    (∀ text, Carries o (ofText o text)) ∧
    ∀ text text', (ofText o text).paths = (ofText o text').paths ∧
      ∀ path, path ≠ "src/App.tsx" → (ofText o text).get? path = (ofText o text').get? path := by
  constructor
  · intro text
    obtain ⟨app, isPlaceholder, made⟩ := ofText_eq_assemble o text
    rw [made]
    exact carries_assemble o app isPlaceholder
  · intro text text'
    obtain ⟨app, isPlaceholder, made⟩ := ofText_eq_assemble o text
    obtain ⟨app', isPlaceholder', made'⟩ := ofText_eq_assemble o text'
    rw [made, made']
    constructor
    · exact (map_path_scaffold o _ app).trans (map_path_scaffold o _ app').symm
    · intro path other
      exact get?_assemble_congr o app isPlaceholder app' isPlaceholder' other

end Project

end MiniApp

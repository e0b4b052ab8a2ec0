import MiniApp.Asset.ProjectFiles
import MiniApp.Asset.ProjectTemplates
import MiniApp.Graph.Reader
import MiniApp.Project.App
import MiniApp.Project.Options
import MiniApp.Slug
import MiniApp.Theme
import MiniApp.Walk.Basic

set_option autoImplicit false

namespace MiniApp

structure SourceFile where
  path : String
  content : String
deriving DecidableEq

structure Project where
  name : String
  slug : String
  files : List SourceFile
  isPlaceholder : Bool

namespace Project

def get? (p : Project) (path : String) : Option String :=
  (p.files.find? fun f => f.path == path).map SourceFile.content

def contains (p : Project) (path : String) : Bool := (p.get? path).isSome

def paths (p : Project) : List String := p.files.map SourceFile.path

def sorted (p : Project) : List (String × String) :=
  sortFields (p.files.map fun f => (f.path, f.content))

def totalBytes (p : Project) : Nat :=
  p.files.foldr (fun f size => f.content.utf8ByteSize + size) 0

def manifestValues (name slug : String) : Fields :=
  [("slug", .string slug), ("description", .string (name ++ " mini app"))]

def pageValues (o : ProjectOptions) : Fields :=
  [("lang", .string "en"), ("theme", .string (Theme.name o.darkMode)),
    ("title", .string (Escape.markup o.name))]

def readmeValues (o : ProjectOptions) : Fields :=
  [("name", .string (Escape.markup o.name)), ("submission", .bool o.submission)]

def bridgeValues (o : ProjectOptions) : Fields := [("timeoutMs", .integer o.timeout)]

def privacyValues (o : ProjectOptions) : Fields :=
  [("appName", .string (Escape.literal o.name)),
    ("contactEmail", .string ((o.contact.map Escape.literal).getD "null"))]

def scaffold (o : ProjectOptions) (slug : String) (app : AppSource) : List SourceFile :=
  [⟨"package.json", Asset.packageManifest.fill (manifestValues o.name slug)⟩,
    ⟨"tsconfig.json", Asset.fileText Asset.compilerConfig⟩,
    ⟨"vite.config.ts", Asset.fileText Asset.buildConfig⟩,
    ⟨"index.html", Asset.indexPage.fill (pageValues o)⟩,
    ⟨"README.md", Asset.readme.fill (readmeValues o)⟩,
    ⟨"src/main.tsx", Asset.fileText (if o.submission then Asset.mainRouter else Asset.mainPlain)⟩,
    ⟨"src/App.tsx", app.text⟩,
    ⟨"src/index.css", Theme.stylesheet o.name o.darkMode⟩,
    ⟨"src/bridge.ts", Asset.bridgeModule.fill (bridgeValues o)⟩,
    ⟨"src/components.tsx", Asset.fileText Asset.runtimeComponents⟩] ++
  if o.submission then
    [⟨"src/pages/PrivacyPolicy.tsx", Asset.privacyPage.fill (privacyValues o)⟩]
  else []

def assemble (o : ProjectOptions) (app : AppSource) (isPlaceholder : Bool) : Project :=
  let slug := Slug.ofName o.name
  ⟨o.name, slug, scaffold o slug app, isPlaceholder⟩

def placeholder (o : ProjectOptions) (reason : String) : Project :=
  assemble o (.placeholder reason) true

def generate (o : ProjectOptions) (g : Graph) : Project :=
  assemble o (.ofOutput (walk g .project).output o.submission) false

def ofRead (o : ProjectOptions) : Except GraphError Graph → Project
  | .ok g => generate o g
  | .error e => placeholder o e.message

def ofText (o : ProjectOptions) (text : String) : Project := ofRead o (Graph.ofText text)

def ofJson (o : ProjectOptions) (v : Json) : Project := ofRead o (Graph.ofJson v)

end Project

end MiniApp

import MiniApp.Asset.DocumentShell
import MiniApp.Document.Options
import MiniApp.Document.Script
import MiniApp.Page
import MiniApp.Theme
import MiniApp.Walk.Basic

/-!
Documents: one file of markup that shows an app and runs by itself. A graph that cannot be read
gives a document that says why, and so does an empty list of pages; a page that cannot be read gives
a notice in its place and leaves the others alone.
-/

set_option autoImplicit false

namespace MiniApp.Document

def frameValues (o : DocumentOptions) (title : String) : Fields :=
  [("lang", .string o.languageTag), ("theme", .string (Theme.name o.darkMode)),
    ("title", .string (Escape.markup title)),
    ("stylesheet", .string (Theme.stylesheet o.title o.darkMode))]

def placeholder (o : DocumentOptions) (reason : String) : String :=
  Asset.placeholder.fill (frameValues o o.title ++ [("reason", .string (Escape.markup reason))])

/-- The main element around a rendered body; it names the page that is shown first. -/
def mainElement (body : String) (pages : List RenderedPage) : Markup.Tree :=
  .element
    ⟨"main", false, [],
      ("id", .text "mf-app") :: (pages.head?.toList.map fun p => ("data-page", .text p.id)), []⟩
    (Tree.raws [body])

/-- The document around a rendered body. The pages are for switching; without them there is only
the body. -/
def assemble (o : DocumentOptions) (body : String) (pages : List RenderedPage) : String :=
  let title := (pages.head?.map RenderedPage.title).getD o.title
  Asset.shell.fill (frameValues o title ++
    [("main", .string (Markup.render (mainElement body pages))),
      ("script", .string (DocumentScript.text o.title o.timeout pages))])

def generate (o : DocumentOptions) (g : Graph) : String :=
  assemble o (walk g .document).output []

def ofRead (o : DocumentOptions) : Except GraphError Graph → String
  | .ok g => generate o g
  | .error e => placeholder o e.message

def ofText (o : DocumentOptions) (text : String) : String := ofRead o (Graph.ofText text)

def ofJson (o : DocumentOptions) (v : Json) : String := ofRead o (Graph.ofJson v)

def brokenPage (reason : String) : String :=
  let line (classes : List String) (text : String) : Markup.Tree :=
    .element ⟨"p", false, classes, [], []⟩ [.text text]
  Markup.render (.element
    ⟨"div", false, ["mf-empty"], [("data-generation-error", .text "true")], []⟩
    [line ["mf-text"] "This page could not be generated.",
      line ["mf-text", "mf-error-reason"] reason])

def pageBody (p : Page) : String :=
  match p.readGraph with
  | .ok g => (walk g .document).output
  | .error e => brokenPage e.message

def renderPage (p : Page) : RenderedPage := ⟨p.id, p.title, pageBody p⟩

/-- The pages whose id is not in `seen` and did not come before. -/
def firstPages (seen : List String) : List Page → List Page
  | [] => []
  | p :: ps => if p.id ∈ seen then firstPages seen ps else p :: firstPages (p.id :: seen) ps

/-- One document for several pages; of pages with one id the first stays. -/
def ofPages (o : DocumentOptions) (pages : List Page) : String :=
  match (firstPages [] pages).map renderPage with
  | [] => placeholder o "The project has no pages."
  | first :: rest => assemble o first.html (first :: rest)

end MiniApp.Document

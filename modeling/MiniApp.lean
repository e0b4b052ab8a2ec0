import MiniApp.Editor
import MiniApp.Proofs.Archive.Checksum
import MiniApp.Proofs.Archive.Extraction
import MiniApp.Proofs.Archive.Writer
import MiniApp.Proofs.Code.Expression
import MiniApp.Proofs.Code.StringLiteral
import MiniApp.Proofs.Component.HandlerShape
import MiniApp.Proofs.Component.Items
import MiniApp.Proofs.Component.Placed
import MiniApp.Proofs.Component.Numbers
import MiniApp.Proofs.Component.Styles
import MiniApp.Proofs.Component.Tags
import MiniApp.Proofs.Component.Urls
import MiniApp.Proofs.Document.PageTable
import MiniApp.Proofs.Document.Pages
import MiniApp.Proofs.Document.References
import MiniApp.Proofs.Graph.Readings
import MiniApp.Proofs.Graph.RoundTrip
import MiniApp.Proofs.Graph.Store
import MiniApp.Proofs.Markup.Outline
import MiniApp.Proofs.Nesting
import MiniApp.Proofs.Project.Values
import MiniApp.Proofs.Text.Entity
import MiniApp.Proofs.Theme.Comment
import MiniApp.Proofs.Walk.Agreement
import MiniApp.Proofs.Walk.Clean
import MiniApp.Proofs.Walk.Containment
import MiniApp.Proofs.Walk.Defaults
import MiniApp.Proofs.Walk.Equality
import MiniApp.Proofs.Walk.Imports
import MiniApp.Proofs.Walk.Injection
import MiniApp.Proofs.Walk.ProjectInjection
import MiniApp.Proofs.Walk.Slides
import MiniApp.Proofs.Walk.VisiblePart

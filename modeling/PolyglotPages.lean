import PolyglotPages.Marker.Cursor
import PolyglotPages.Segment
import PolyglotPages.Text.Alphanumeric
import PolyglotPages.Text.Quoted
import PolyglotPages.Number.Literal
import PolyglotPages.Json.Strict.Value
import PolyglotPages.Json.Relaxed.Value
import PolyglotPages.Json.Settled
import PolyglotPages.Json.Strict.Shaped
import PolyglotPages.Dictionary.Form
import PolyglotPages.Document
import PolyglotPages.Output.Naming
import PolyglotPages.Output.Writing
import PolyglotPages.Project.Form
import PolyglotPages.Project.SettingsError
import PolyglotPages.Site
import PolyglotPages.Project.Session
import PolyglotPages.Command.Run
import PolyglotPages.Main
import PolyglotPages.Regex.Escape
import PolyglotPages.Regex.Set
import PolyglotPages.Regex.Basic
import PolyglotPages.Proofs.Text.NormalForm
import PolyglotPages.Proofs.Marker.Summary
import PolyglotPages.Proofs.Marker.Answers
import PolyglotPages.Proofs.Page.Joining
import PolyglotPages.Proofs.Page.RawMarkers
import PolyglotPages.Proofs.Page.Columns
import PolyglotPages.Proofs.Page.Lookup
import PolyglotPages.Proofs.Output.Apart
import PolyglotPages.Proofs.Output.Below
import PolyglotPages.Proofs.Output.OwnPath
import PolyglotPages.Proofs.Output.Attempts
import PolyglotPages.Proofs.Output.Placeholders
import PolyglotPages.Proofs.Project.Session
import PolyglotPages.Proofs.Project.Paths
import PolyglotPages.Proofs.Project.Flattened
import PolyglotPages.Proofs.Dictionary.Parts
import PolyglotPages.Proofs.Dictionary.Written
import PolyglotPages.Proofs.Dictionary.Inlined
import PolyglotPages.Proofs.Dictionary.Numbers
import PolyglotPages.Proofs.Command.Options
import PolyglotPages.Proofs.Command.Ending
import PolyglotPages.Proofs.Command.Warnings
import PolyglotPages.Proofs.Json.Grammar
import PolyglotPages.Proofs.Json.Strict.Value
import PolyglotPages.Proofs.Json.Relaxed.Token
import PolyglotPages.Proofs.Json.Relaxed.Value
import PolyglotPages.Proofs.Json.Relaxed.Tree
import PolyglotPages.Proofs.Json.Relaxed.Numeral

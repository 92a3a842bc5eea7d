import DocIndex.Catalog
import DocIndex.Category
import DocIndex.CommandLine
import DocIndex.Decimal.Shortest
import DocIndex.Destination
import DocIndex.Dialogue
import DocIndex.Dialogue.ClientRequest
import DocIndex.Dialogue.Tool
import DocIndex.Document
import DocIndex.Document.Reader
import DocIndex.Dropdown.Panel
import DocIndex.Dropdown.QuietPeriod
import DocIndex.Dropdown.Reaction
import DocIndex.Dropdown.Session
import DocIndex.Entry
import DocIndex.Handbook
import DocIndex.HomePath
import DocIndex.Json.Basic
import DocIndex.Json.Fault
import DocIndex.Json.Pass
import DocIndex.Json.Pattern
import DocIndex.Json.Printer
import DocIndex.Json.Reader
import DocIndex.Json.Scan
import DocIndex.Json.Shape
import DocIndex.Main
import DocIndex.Markup
import DocIndex.Markup.Highlight
import DocIndex.Program
import DocIndex.Proofs.Catalog.Lookup
import DocIndex.Proofs.Catalog.Preorder
import DocIndex.Proofs.Document.ExtraMembers
import DocIndex.Proofs.Document.Index
import DocIndex.Proofs.Document.RoundTrip
import DocIndex.Proofs.Document.UnknownCategories
import DocIndex.Proofs.Dropdown.ClearControl
import DocIndex.Proofs.Dropdown.Coherence
import DocIndex.Proofs.Dropdown.DelayChange
import DocIndex.Proofs.Dropdown.IdealClock
import DocIndex.Proofs.Dropdown.Navigation
import DocIndex.Proofs.Dropdown.Rest
import DocIndex.Proofs.Dropdown.Rotation
import DocIndex.Proofs.Dropdown.Rows
import DocIndex.Proofs.Dropdown.Run
import DocIndex.Proofs.Dropdown.View
import DocIndex.Proofs.Handbook.Fallback
import DocIndex.Proofs.Handbook.JsonAnswers
import DocIndex.Proofs.Handbook.Members
import DocIndex.Proofs.Handbook.Owners
import DocIndex.Proofs.Json.Passing
import DocIndex.Proofs.Json.Reading
import DocIndex.Proofs.Json.Texts
import DocIndex.Proofs.Markup.Escaping
import DocIndex.Proofs.Markup.GreedyMarks
import DocIndex.Proofs.Markup.Highlighting
import DocIndex.Proofs.Markup.Reading
import DocIndex.Proofs.Markup.Unmarked
import DocIndex.Proofs.Search.CaseBlind
import DocIndex.Proofs.Search.FirstHits
import DocIndex.Proofs.Search.Narrowing
import DocIndex.Proofs.Text.Blank
import DocIndex.Proofs.Text.Bytes
import DocIndex.Proofs.Text.Folding
import DocIndex.Proofs.Text.Occurrence
import DocIndex.Proofs.Text.Origins
import DocIndex.Proofs.TypeExpr.Linking
import DocIndex.Proofs.TypeExpr.NormalForm
import DocIndex.Proofs.TypeExpr.Parts
import DocIndex.Proofs.TypeExpr.Rendering
import DocIndex.Proofs.TypeExpr.Tokens
import DocIndex.Request
import DocIndex.Request.Schema
import DocIndex.Search.Buckets
import DocIndex.Search.Row
import DocIndex.Search.Scan
import DocIndex.Text.Blank
import DocIndex.Text.Bytes
import DocIndex.Text.CaseRuns
import DocIndex.Text.Fold
import DocIndex.Text.Hidden
import DocIndex.Text.Quoted
import DocIndex.TypeExpr.Link
import DocIndex.TypeExpr.Token

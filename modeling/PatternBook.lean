import PatternBook.Anchor
import PatternBook.Artifact
import PatternBook.CommandLine.Execution
import PatternBook.CommandLine.Options
import PatternBook.Comment.Block
import PatternBook.Comment.Family
import PatternBook.Comment.Token
import PatternBook.Config.Settings
import PatternBook.Config.Shape
import PatternBook.Config.Validation
import PatternBook.Discovery
import PatternBook.Disk.Basic
import PatternBook.Disk.Directory
import PatternBook.Glob.Matching
import PatternBook.Glob.Pattern
import PatternBook.Glob.Piece
import PatternBook.Glob.Search
import PatternBook.Json.Binary64
import PatternBook.Json.Document
import PatternBook.Json.Numeral
import PatternBook.Json.Printer
import PatternBook.Json.Reader
import PatternBook.Json.Scalar
import PatternBook.Json.Value
import PatternBook.Library
import PatternBook.Main
import PatternBook.Mode
import PatternBook.Page.Document
import PatternBook.Page.Markup
import PatternBook.Page.Style
import PatternBook.Path
import PatternBook.Proofs.Anchor.Distinct
import PatternBook.Proofs.Text.Cuts
import PatternBook.Record.Annotated
import PatternBook.Record.Basic
import PatternBook.Record.Declaration
import PatternBook.Record.Findings
import PatternBook.Record.TagLine
import PatternBook.Renderer
import PatternBook.Run.Basic
import PatternBook.Run.Report
import PatternBook.Text.Alphanumeric
import PatternBook.Text.Basic
import PatternBook.Text.Blank
import PatternBook.Text.Lowercase
import PatternBook.Text.Quoted
import PatternBook.Text.Ranges
import PatternBook.Text.Tamed
import PatternBook.Text.Utf8
import PatternBook.Text.Visible
import PatternBook.Proofs.Declaration.Shape
import PatternBook.Proofs.Declaration.Spacing
import PatternBook.Proofs.Comment.Grammar
import PatternBook.Proofs.Text.Bytes
import PatternBook.Proofs.Comment.First
import PatternBook.Proofs.Comment.Lexemes
import PatternBook.Proofs.Comment.Extraction
import PatternBook.Proofs.Comment.Locality
import PatternBook.Proofs.Record.Reading
import PatternBook.Proofs.Record.Printer
import PatternBook.Proofs.Record.RoundTrip
import PatternBook.Proofs.Record.Stanza
import PatternBook.Proofs.Record.Meaning
import PatternBook.Proofs.Run.Stages
import PatternBook.Proofs.Run.Order
import PatternBook.Proofs.Disk.Frame
import PatternBook.Proofs.Disk.Making
import PatternBook.Proofs.Run.Effects
import PatternBook.Proofs.Page.Tags
import PatternBook.Proofs.Page.Nesting
import PatternBook.Proofs.Page.Safety
import PatternBook.Proofs.Config.Rules
import PatternBook.Proofs.Config.Verdict
import PatternBook.Proofs.Path.Spelling
import PatternBook.Proofs.CommandLine.Rebase
import PatternBook.Proofs.Json.Grammar
import PatternBook.Proofs.Json.Reading
import PatternBook.Proofs.Json.Writing
import PatternBook.Proofs.Artifact.Decoding
import PatternBook.Proofs.Artifact.Recovery
import PatternBook.Proofs.Glob.Prefix
import PatternBook.Proofs.Path.Parts
import PatternBook.Proofs.Glob.Steps
import PatternBook.Proofs.Glob.Beside
import PatternBook.Proofs.Glob.Front
import PatternBook.Proofs.Discovery.Base
import PatternBook.Proofs.Page.Hidden
import PatternBook.Proofs.Run.Isolation
import PatternBook.Proofs.Page.Items
import PatternBook.Proofs.Page.Outline
import PatternBook.Proofs.Page.Index
import PatternBook.Proofs.Comment.Returns
import PatternBook.Proofs.Record.Returns
import PatternBook.Proofs.Comment.Place
import PatternBook.Proofs.Comment.Joined
import PatternBook.Proofs.Record.Chapters
import PatternBook.Proofs.Record.Joined
import PatternBook.Proofs.Comment.Order
import PatternBook.Proofs.Record.Pointing
import PatternBook.Proofs.Library.History
import PatternBook.Proofs.Config.Stability
import PatternBook.Proofs.CommandLine.Meaning
import PatternBook.Proofs.CommandLine.Effects
import PatternBook.Proofs.Run.Notices
import PatternBook.Proofs.Record.Segments
import PatternBook.Proofs.Text.Trimmed
import PatternBook.Proofs.Record.Canonical
import PatternBook.Proofs.Record.Policy
import PatternBook.Proofs.Record.Gutters
import PatternBook.Proofs.Declaration.Sites
import PatternBook.Proofs.Declaration.Scan
import PatternBook.Proofs.Record.Commented
import PatternBook.Proofs.Page.Entities
import PatternBook.Proofs.Discovery.Union
import PatternBook.Proofs.Comment.Closing
import PatternBook.Proofs.Comment.Offsets
import PatternBook.Proofs.Record.Slices

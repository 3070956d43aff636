import MermaidTidy.Command.Console
import MermaidTidy.Command.Options
import MermaidTidy.Command.Run
import MermaidTidy.Command.Usage
import MermaidTidy.Diagnostic
import MermaidTidy.Diagram.Build
import MermaidTidy.Diagram.Declaration
import MermaidTidy.Diagram.Kind
import MermaidTidy.Diagram.MessageLine
import MermaidTidy.Diagram.Statement
import MermaidTidy.Files.Path
import MermaidTidy.Files.Tree
import MermaidTidy.Json.Binary64
import MermaidTidy.Json.Read
import MermaidTidy.Json.Value
import MermaidTidy.Layout.Format
import MermaidTidy.Layout.Lines
import MermaidTidy.Layout.Render
import MermaidTidy.Layout.Rules
import MermaidTidy.Line.Classify
import MermaidTidy.Line.Recognise
import MermaidTidy.Line.Shape
import MermaidTidy.Log.Account
import MermaidTidy.Log.Record
import MermaidTidy.Main
import MermaidTidy.Markdown.Fence
import MermaidTidy.Markdown.Format
import MermaidTidy.Proofs.Command.Delivery
import MermaidTidy.Proofs.Command.Files
import MermaidTidy.Proofs.Command.Independence
import MermaidTidy.Proofs.Diagram.Declaration
import MermaidTidy.Proofs.Diagram.MessageLine
import MermaidTidy.Proofs.Diagram.Participant
import MermaidTidy.Proofs.Files.Frame
import MermaidTidy.Proofs.Format.Characters
import MermaidTidy.Proofs.Format.Content
import MermaidTidy.Proofs.Format.Detection
import MermaidTidy.Proofs.Format.Forward
import MermaidTidy.Proofs.Format.Idempotence
import MermaidTidy.Proofs.Format.Messages
import MermaidTidy.Proofs.Format.Outline
import MermaidTidy.Proofs.Format.Reread
import MermaidTidy.Proofs.Format.Room
import MermaidTidy.Proofs.Format.Stability
import MermaidTidy.Proofs.Format.Steady
import MermaidTidy.Proofs.Format.Verbatim
import MermaidTidy.Proofs.Layout.BlankLines
import MermaidTidy.Proofs.Layout.Depth
import MermaidTidy.Proofs.Layout.Parts
import MermaidTidy.Proofs.Layout.Room
import MermaidTidy.Proofs.Layout.Spacing
import MermaidTidy.Proofs.Line.Coverage
import MermaidTidy.Proofs.Line.Declared
import MermaidTidy.Proofs.Line.Lead
import MermaidTidy.Proofs.Line.Precedence
import MermaidTidy.Proofs.Line.Respaced
import MermaidTidy.Proofs.Markdown.Closing
import MermaidTidy.Proofs.Markdown.Document
import MermaidTidy.Proofs.Markdown.Faults
import MermaidTidy.Proofs.Markdown.Fences
import MermaidTidy.Proofs.Markdown.Frame
import MermaidTidy.Proofs.Markdown.Stability
import MermaidTidy.Proofs.Respacing.Normal
import MermaidTidy.Proofs.Respacing.NormalForm
import MermaidTidy.Proofs.Respacing.Padding
import MermaidTidy.Proofs.Respacing.Tighten
import MermaidTidy.Proofs.Settings.Precedence
import MermaidTidy.Proofs.Source.Declaring
import MermaidTidy.Proofs.Source.Failure
import MermaidTidy.Proofs.Source.Frontmatter
import MermaidTidy.Proofs.Source.Legible
import MermaidTidy.Proofs.Source.MessageReread
import MermaidTidy.Proofs.Source.Outline
import MermaidTidy.Proofs.Source.Reading
import MermaidTidy.Proofs.Source.Reads
import MermaidTidy.Proofs.Source.Rendered
import MermaidTidy.Proofs.Source.Reports
import MermaidTidy.Proofs.Text.Lines
import MermaidTidy.Proofs.Text.Trim
import MermaidTidy.Proofs.Text.Utf8
import MermaidTidy.Respacing.Brackets
import MermaidTidy.Respacing.Normalize
import MermaidTidy.Settings.Basic
import MermaidTidy.Settings.Loader
import MermaidTidy.Settings.Numeral
import MermaidTidy.Settings.Validate
import MermaidTidy.Source.Read
import MermaidTidy.Text.Basic
import MermaidTidy.Text.CellWidth
import MermaidTidy.Text.Integer
import MermaidTidy.Text.Lines
import MermaidTidy.Text.Lowercase
import MermaidTidy.Text.Printable
import MermaidTidy.Text.Quoted
import MermaidTidy.Text.Utf8
import MermaidTidy.Text.WordChar
import MermaidTidy.Vocabulary
import MermaidTidy.World

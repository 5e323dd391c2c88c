import FieldTemplate.Main
import FieldTemplate.Render.Foreign
import FieldTemplate.Session.Basic
import FieldTemplate.Template.Stream
import FieldTemplate.Proofs.Result
import FieldTemplate.Proofs.Template.Scan
import FieldTemplate.Proofs.Template.Fault
import FieldTemplate.Proofs.Template.Spelling
import FieldTemplate.Proofs.Template.Lazy
import FieldTemplate.Proofs.Template.Path
import FieldTemplate.Proofs.Render.Rendering
import FieldTemplate.Proofs.Render.Substitution
import FieldTemplate.Proofs.Render.Concatenation
import FieldTemplate.Proofs.Render.Steps
import FieldTemplate.Proofs.Render.Strictness
import FieldTemplate.Proofs.Number.Rounding
import FieldTemplate.Proofs.Number.Decimal
import FieldTemplate.Proofs.Render.Failure
import FieldTemplate.Proofs.Render.Dependence
import FieldTemplate.Proofs.Render.Escaping
import FieldTemplate.Proofs.Value.Entries
import FieldTemplate.Proofs.Value.Key
import FieldTemplate.Proofs.Value.Nested
import FieldTemplate.Proofs.Value.Reordered
import FieldTemplate.Proofs.Json.Nested
import FieldTemplate.Proofs.Yaml.Nested
import FieldTemplate.Proofs.Context.Merge
import FieldTemplate.Proofs.Context.Faults
import FieldTemplate.Proofs.Context.Layers
import FieldTemplate.Proofs.Text.Utf8
import FieldTemplate.Proofs.Text.Quoted
import FieldTemplate.Proofs.Files.Tree
import FieldTemplate.Proofs.Console.Markup
import FieldTemplate.Proofs.Command.Options
import FieldTemplate.Proofs.Command.Stream
import FieldTemplate.Proofs.Command.Frame
import FieldTemplate.Proofs.Context.Independence
import FieldTemplate.Proofs.Context.Precedence
import FieldTemplate.Proofs.Command.Report
import FieldTemplate.Proofs.Command.Stages
import FieldTemplate.Proofs.Command.Check
import FieldTemplate.Proofs.Context.Grouping
import FieldTemplate.Proofs.Context.Assigned
import FieldTemplate.Proofs.Context.Repetition
import FieldTemplate.Proofs.Context.Unread
import FieldTemplate.Proofs.Template.PathGrammar
import FieldTemplate.Proofs.Template.FaultPlace
import FieldTemplate.Proofs.Text.Position
import FieldTemplate.Proofs.Unicode.Decomposition
import FieldTemplate.Proofs.Unicode.Normalization
import FieldTemplate.Proofs.Unicode.Lowercase
import FieldTemplate.Proofs.Format.Escaped
import FieldTemplate.Proofs.Format.Fragment
import FieldTemplate.Proofs.Text.ByteCounter
import FieldTemplate.Proofs.Template.Offsets
import FieldTemplate.Proofs.Format.Sanitized
import FieldTemplate.Proofs.Number.Numeral
import FieldTemplate.Proofs.Number.Reduced
import FieldTemplate.Proofs.Number.Positional
import FieldTemplate.Proofs.Number.Canonical
import FieldTemplate.Proofs.Number.Whole

import TextTemplate.Unicode.Case
import TextTemplate.Number.FloatText
import TextTemplate.Number.Decimal
import TextTemplate.Number.DecimalOfFloat
import TextTemplate.Number.Pattern
import TextTemplate.Calendar.Date
import TextTemplate.Calendar.Pattern
import TextTemplate.Calendar.Directive
import TextTemplate.Calendar.Reading
import TextTemplate.Error
import TextTemplate.Trace
import TextTemplate.NameTable
import TextTemplate.Value.Basic
import TextTemplate.Value.Field
import TextTemplate.Value.Order
import TextTemplate.Json.Basic
import TextTemplate.Json.Number
import TextTemplate.Json.Lexer
import TextTemplate.Json.Reading
import TextTemplate.Value.Json
import TextTemplate.Expression.Path
import TextTemplate.Scope
import TextTemplate.Expression
import TextTemplate.Expression.Resolve
import TextTemplate.Condition
import TextTemplate.Helper.WordCase
import TextTemplate.Helper.Builtin
import TextTemplate.Helper.Registry
import TextTemplate.Interpolation
import TextTemplate.Template.Comment
import TextTemplate.Template.Region
import TextTemplate.Template.Render
import TextTemplate.Yaml.Input
import TextTemplate.Yaml.Tag
import TextTemplate.Yaml.Scalar
import TextTemplate.Yaml.Token
import TextTemplate.Yaml.Node
import TextTemplate.Yaml.Reading
import TextTemplate.Variables.Assignment
import TextTemplate.Variables.Document
import TextTemplate.Command.Arguments
import TextTemplate.Command.Directory
import TextTemplate.Command.Run
import TextTemplate.Main
import TextTemplate.Proofs.Lines
import TextTemplate.Proofs.Braces
import TextTemplate.Proofs.Markup.Basic
import TextTemplate.Proofs.Markup.Reading
import TextTemplate.Proofs.Markup.Denotation
import TextTemplate.Proofs.Markup.Indentation
import TextTemplate.Proofs.Parts
import TextTemplate.Proofs.Failures
import TextTemplate.Proofs.DepthLimit
import TextTemplate.Proofs.Variables.History
import TextTemplate.Proofs.Variables.Run
import TextTemplate.Proofs.Variables.Cursor
import TextTemplate.Proofs.Comments
import TextTemplate.Proofs.PlainText
import TextTemplate.Proofs.OrderLaws
import TextTemplate.Proofs.DottedPath
import TextTemplate.Proofs.Entries
import TextTemplate.Proofs.Json.Scalars
import TextTemplate.Proofs.Json.Tree
import TextTemplate.Proofs.Json.Values
import TextTemplate.Proofs.Variables.Documents
import TextTemplate.Proofs.Variables.Layers
import TextTemplate.Proofs.Command.Effects
import TextTemplate.Proofs.LowerCase
import TextTemplate.Proofs.Registrations
import TextTemplate.Proofs.Cutting
import TextTemplate.Proofs.Quotes
import TextTemplate.Proofs.Conditions
import TextTemplate.Proofs.PathSteps
import TextTemplate.Proofs.Markup.Unclosed
import TextTemplate.Proofs.JoinedText
import TextTemplate.Proofs.Chains
import TextTemplate.Proofs.KeyLookup
import TextTemplate.Proofs.ServiceCalls
import TextTemplate.Proofs.Numbers.Shape
import TextTemplate.Proofs.Numbers.Layout
import TextTemplate.Proofs.Numbers.Patterns
import TextTemplate.Proofs.Calendar.Patterns
import TextTemplate.Proofs.Calendar.Reading
import TextTemplate.Proofs.Floats.Conversion
import TextTemplate.Proofs.IntegerOrder
import TextTemplate.Proofs.PathPlaces
import TextTemplate.Proofs.RegionPlaces

import Findings.Command.Aftermath
import Findings.Command.Arguments
import Findings.Command.Footprint
import Findings.Command.Request
import Findings.Command.Run
import Findings.Config.Load
import Findings.Config.Settings
import Findings.Digest.Md5
import Findings.Entries
import Findings.Expression.Arguments
import Findings.Expression.Atoms
import Findings.Expression.Fault
import Findings.Expression.Grammar
import Findings.Expression.Literal
import Findings.Expression.Mistakes
import Findings.Expression.Node
import Findings.Expression.Operators
import Findings.Expression.Rule
import Findings.Expression.Strings
import Findings.Expression.Token
import Findings.Expression.TokenReader
import Findings.Files.Access
import Findings.Files.Tree
import Findings.Json.Access
import Findings.Json.Basic
import Findings.Json.Order
import Findings.Json.Reader
import Findings.Json.Spelling
import Findings.Json.Token
import Findings.Json.Writer
import Findings.Lint.Basic
import Findings.Lint.Reader
import Findings.Logging
import Findings.Main
import Findings.Number.Binary64
import Findings.Number.Numeral
import Findings.Number.Shortest
import Findings.Path.Basic
import Findings.Path.Relative
import Findings.Proofs.Command.Aftermath
import Findings.Proofs.Command.Agreement
import Findings.Proofs.Command.Arguments
import Findings.Proofs.Command.Choices
import Findings.Proofs.Command.ChosenOptions
import Findings.Proofs.Command.Contract
import Findings.Proofs.Command.Conversion
import Findings.Proofs.Command.Delivery
import Findings.Proofs.Command.Failure
import Findings.Proofs.Command.Flags
import Findings.Proofs.Command.InputChannel
import Findings.Proofs.Command.Messages
import Findings.Proofs.Command.Projects
import Findings.Proofs.Command.Tasks
import Findings.Proofs.Command.Values
import Findings.Proofs.Command.Verbosity
import Findings.Proofs.Config.Choices
import Findings.Proofs.Config.Validation
import Findings.Proofs.Config.Written
import Findings.Proofs.Entries
import Findings.Proofs.Except
import Findings.Proofs.Files.Alike
import Findings.Proofs.Files.Elsewhere
import Findings.Proofs.Files.FromRoot
import Findings.Proofs.Files.Paths
import Findings.Proofs.Files.Refusals
import Findings.Proofs.Files.Writing
import Findings.Proofs.FirstAppearance
import Findings.Proofs.Json.Grammar
import Findings.Proofs.Json.Joined
import Findings.Proofs.Json.Language
import Findings.Proofs.Json.Layout
import Findings.Proofs.Json.Lexemes
import Findings.Proofs.Json.Printed
import Findings.Proofs.Json.RoundTrip
import Findings.Proofs.Json.Source
import Findings.Proofs.Json.Spelling
import Findings.Proofs.Json.Strings
import Findings.Proofs.Json.Tokens
import Findings.Proofs.Lint.Joined
import Findings.Proofs.Lint.Language
import Findings.Proofs.Lint.RoundTrip
import Findings.Proofs.Lint.Shape
import Findings.Proofs.Lint.Tolerance
import Findings.Proofs.Lint.Written
import Findings.Proofs.Path.Canonical
import Findings.Proofs.Path.Denotation
import Findings.Proofs.Path.Joined
import Findings.Proofs.Path.Normal
import Findings.Proofs.Path.Resolution
import Findings.Proofs.Path.Segments
import Findings.Proofs.Path.Way
import Findings.Proofs.Sarif.Artifacts
import Findings.Proofs.Sarif.DisplayName
import Findings.Proofs.Sarif.Document
import Findings.Proofs.Sarif.Emission
import Findings.Proofs.Sarif.Encodable
import Findings.Proofs.Sarif.Entries
import Findings.Proofs.Sarif.FileOrder
import Findings.Proofs.Sarif.Fingerprints
import Findings.Proofs.Sarif.FirstFault
import Findings.Proofs.Sarif.Growth
import Findings.Proofs.Sarif.Joined
import Findings.Proofs.Sarif.Members
import Findings.Proofs.Sarif.PlainLog
import Findings.Proofs.Sarif.RelativeFiles
import Findings.Proofs.Sarif.ReportShapes
import Findings.Proofs.Sarif.Resolved
import Findings.Proofs.Sarif.RoundTrip
import Findings.Proofs.Sarif.Rules
import Findings.Proofs.Sarif.Run
import Findings.Proofs.Sarif.SharedArtifacts
import Findings.Proofs.Sarif.Success
import Findings.Proofs.Sarif.SuppressionToggle
import Findings.Proofs.Sarif.Suppressions
import Findings.Proofs.Summary.Account
import Findings.Proofs.Summary.FileOrder
import Findings.Proofs.Summary.Groups
import Findings.Proofs.Summary.LastLines
import Findings.Proofs.Summary.Shown
import Findings.Proofs.Summary.View
import Findings.Proofs.Terminal.Layout
import Findings.Proofs.Terminal.Markup
import Findings.Proofs.Terminal.Unmarked
import Findings.Proofs.Text.Blank
import Findings.Proofs.Text.CodePoint
import Findings.Proofs.Text.Joined
import Findings.Proofs.Text.Lines
import Findings.Proofs.Text.Numerals
import Findings.Proofs.Text.Order
import Findings.Proofs.Text.Printable
import Findings.Proofs.Text.Utf8
import Findings.Proofs.Toml.BasicStrings
import Findings.Proofs.Toml.KeysOnce
import Findings.Proofs.Toml.Statements
import Findings.Sarif.Draft
import Findings.Sarif.Encoding
import Findings.Sarif.Fingerprint
import Findings.Sarif.Log
import Findings.Sarif.RuleName
import Findings.Summary.Print
import Findings.Summary.View
import Findings.Terminal.Handler
import Findings.Terminal.Markup
import Findings.Terminal.Panel
import Findings.Terminal.Pictograph
import Findings.Terminal.PictographNames
import Findings.Terminal.Style
import Findings.Terminal.Wrap
import Findings.Text.Basic
import Findings.Text.Blank
import Findings.Text.Letters
import Findings.Text.Lines
import Findings.Text.Lower
import Findings.Text.Printable
import Findings.Text.Quoted
import Findings.Text.Utf8
import Findings.Text.Width
import Findings.Toml.Basic
import Findings.Toml.Document
import Findings.Toml.Key
import Findings.Toml.Reader
import Findings.Toml.Scalars
import Findings.Toml.Strings
import Findings.Toml.Table

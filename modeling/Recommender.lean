import Recommender.Algorithm.Basic
import Recommender.Algorithm.Coercion
import Recommender.Algorithm.Validation
import Recommender.Command.Arguments
import Recommender.Command.Basic
import Recommender.Command.Run
import Recommender.Component.Basic
import Recommender.Component.Builtin
import Recommender.Component.Catalog
import Recommender.Component.Kind
import Recommender.Component.Registry
import Recommender.Component.Response
import Recommender.Component.Schema
import Recommender.Document
import Recommender.Files.Access
import Recommender.Files.Bundled
import Recommender.Files.Fault
import Recommender.Files.Loading
import Recommender.Files.Path
import Recommender.Files.Tree
import Recommender.Http.Reply
import Recommender.Http.Server
import Recommender.Http.Target
import Recommender.Json.Fault
import Recommender.Json.Parser
import Recommender.Json.Printer
import Recommender.Json.Sending
import Recommender.Level
import Recommender.Main
import Recommender.Notice
import Recommender.Number.Double
import Recommender.Number.Power
import Recommender.Number.Shortest
import Recommender.Number.Written
import Recommender.Path
import Recommender.Problem
import Recommender.Proofs.Algorithm.Accounting
import Recommender.Proofs.Algorithm.Coercion
import Recommender.Proofs.Algorithm.Comparability
import Recommender.Proofs.Algorithm.Effective
import Recommender.Proofs.Algorithm.Finality
import Recommender.Proofs.Algorithm.Leniency
import Recommender.Proofs.Algorithm.Messages
import Recommender.Proofs.Algorithm.Normalization
import Recommender.Proofs.Algorithm.Outcome
import Recommender.Proofs.Algorithm.Overlay
import Recommender.Proofs.Algorithm.Overrides
import Recommender.Proofs.Algorithm.Reordering
import Recommender.Proofs.Algorithm.Typing
import Recommender.Proofs.Command.Validation
import Recommender.Proofs.Component.Builtin
import Recommender.Proofs.Component.Catalog
import Recommender.Proofs.Component.Order
import Recommender.Proofs.Component.Registration
import Recommender.Proofs.Component.Resolution
import Recommender.Proofs.Document
import Recommender.Proofs.Document.Flattening
import Recommender.Proofs.Files.Composition
import Recommender.Proofs.Files.Deletion
import Recommender.Proofs.Files.Failures
import Recommender.Proofs.Files.Names
import Recommender.Proofs.Files.Newlines
import Recommender.Proofs.Http.Answer
import Recommender.Proofs.Json.Keys
import Recommender.Proofs.Json.Reading
import Recommender.Proofs.Json.Sending
import Recommender.Proofs.Notice
import Recommender.Proofs.Number.Rounding
import Recommender.Proofs.Pointwise
import Recommender.Proofs.Record.Assignments
import Recommender.Proofs.Record.Below
import Recommender.Proofs.Record.Operations
import Recommender.Proofs.Record.Overlay
import Recommender.Proofs.Record.Runs
import Recommender.Proofs.Record.Subtree
import Recommender.Proofs.Record.Writes
import Recommender.Proofs.Script.Acceptance
import Recommender.Proofs.Script.Agreement
import Recommender.Proofs.Script.Comments
import Recommender.Proofs.Script.Concatenation
import Recommender.Proofs.Script.Forms
import Recommender.Proofs.Script.Grammar
import Recommender.Proofs.Script.Integers
import Recommender.Proofs.Script.Layout
import Recommender.Proofs.Script.Literals
import Recommender.Proofs.Script.Newlines
import Recommender.Proofs.Script.Numbers
import Recommender.Proofs.Script.Numerals
import Recommender.Proofs.Script.Outcome
import Recommender.Proofs.Script.Places
import Recommender.Proofs.Script.Positions
import Recommender.Proofs.Script.Quotes
import Recommender.Proofs.Script.RoundTrip
import Recommender.Proofs.Script.Scanning
import Recommender.Proofs.Script.Stripping
import Recommender.Proofs.Script.Values
import Recommender.Proofs.Service.Configuration
import Recommender.Proofs.Service.Listing
import Recommender.Proofs.Service.Lookup
import Recommender.Proofs.Service.NamedFiles
import Recommender.Proofs.Service.Names
import Recommender.Proofs.Service.Response
import Recommender.Proofs.Service.Search
import Recommender.Proofs.Table
import Recommender.Proofs.Table.Overlay
import Recommender.Proofs.Text.Classes
import Recommender.Proofs.Text.Digits
import Recommender.Proofs.Text.Encodable
import Recommender.Proofs.Text.Lines
import Recommender.Proofs.Text.Order
import Recommender.Proofs.Text.Parts
import Recommender.Proofs.Text.Utf8
import Recommender.Record
import Recommender.Reference
import Recommender.Schema.Check
import Recommender.Schema.Fault
import Recommender.Script.Comments
import Recommender.Script.Fault
import Recommender.Script.Literal
import Recommender.Script.Number
import Recommender.Script.Printer
import Recommender.Script.Reading
import Recommender.Script.Statement
import Recommender.Script.Value
import Recommender.Service.Basic
import Recommender.Service.Request
import Recommender.Settings
import Recommender.Table
import Recommender.Text.Alphanumeric
import Recommender.Text.Basic
import Recommender.Text.Blank
import Recommender.Text.Case
import Recommender.Text.CharacterName
import Recommender.Text.Digit
import Recommender.Text.Lines
import Recommender.Text.Name.Alias
import Recommender.Text.Name.Ancient
import Recommender.Text.Name.EastAsian
import Recommender.Text.Name.European
import Recommender.Text.Name.Gesture
import Recommender.Text.Name.Mathematical
import Recommender.Text.Name.Musical
import Recommender.Text.Name.Phonetic
import Recommender.Text.Name.Picture
import Recommender.Text.Name.Presentation
import Recommender.Text.Name.Regional
import Recommender.Text.Name.Run
import Recommender.Text.Name.SouthAsian
import Recommender.Text.Name.Symbol
import Recommender.Text.Percent
import Recommender.Text.Printable
import Recommender.Text.Quoted
import Recommender.Text.Utf8
import Recommender.Value

import CaseGrid.Calendar
import CaseGrid.Case
import CaseGrid.Collection
import CaseGrid.Command.Basic
import CaseGrid.Command.Grammar
import CaseGrid.Command.Request
import CaseGrid.Command.Target
import CaseGrid.Config
import CaseGrid.Document.Basic
import CaseGrid.Document.Load
import CaseGrid.Document.Schema
import CaseGrid.Document.Shape
import CaseGrid.Expansion
import CaseGrid.Failure.Basic
import CaseGrid.Failure.Fault
import CaseGrid.Failure.Kind
import CaseGrid.Failure.Place
import CaseGrid.Log.Conversion
import CaseGrid.Log.Level
import CaseGrid.Log.Piece
import CaseGrid.Log.Registry
import CaseGrid.Log.Template
import CaseGrid.Main
import CaseGrid.Module
import CaseGrid.Number.Binary64
import CaseGrid.Number.Limit
import CaseGrid.Number.Notation
import CaseGrid.Number.Places
import CaseGrid.Number.Reading
import CaseGrid.Number.Rounding
import CaseGrid.Number.Shortest
import CaseGrid.Outcome
import CaseGrid.Path
import CaseGrid.Proofs.Collection.Cases
import CaseGrid.Proofs.Collection.Discovery
import CaseGrid.Proofs.Collection.Titles
import CaseGrid.Proofs.Command.Importing
import CaseGrid.Proofs.Command.Inspection
import CaseGrid.Proofs.Command.Listing
import CaseGrid.Proofs.Command.Quiet
import CaseGrid.Proofs.Command.Reports
import CaseGrid.Proofs.Command.Running
import CaseGrid.Proofs.Document.Checking
import CaseGrid.Proofs.Document.Contents
import CaseGrid.Proofs.Document.Loading
import CaseGrid.Proofs.Document.Making
import CaseGrid.Proofs.Document.Mapping
import CaseGrid.Proofs.Document.Normalising
import CaseGrid.Proofs.Document.Reading
import CaseGrid.Proofs.Document.Renormalising
import CaseGrid.Proofs.Document.Repeats
import CaseGrid.Proofs.Document.Unfolding
import CaseGrid.Proofs.Document.Validity
import CaseGrid.Proofs.Except
import CaseGrid.Proofs.Expansion.Composition
import CaseGrid.Proofs.Expansion.Counting
import CaseGrid.Proofs.Expansion.Outcome
import CaseGrid.Proofs.Expansion.Product
import CaseGrid.Proofs.Log.History
import CaseGrid.Proofs.Log.Installing
import CaseGrid.Proofs.Log.Linking
import CaseGrid.Proofs.Log.Names
import CaseGrid.Proofs.Log.Reaching
import CaseGrid.Proofs.Path.Inverse
import CaseGrid.Proofs.Path.Pattern
import CaseGrid.Proofs.Path.RoundTrip
import CaseGrid.Proofs.Path.Selecting
import CaseGrid.Proofs.Run.Agreement
import CaseGrid.Proofs.Run.Calls
import CaseGrid.Proofs.Run.Independence
import CaseGrid.Proofs.Session
import CaseGrid.Proofs.Suite.Expansion
import CaseGrid.Proofs.Suite.History
import CaseGrid.Proofs.Suite.Names
import CaseGrid.Proofs.Suite.Rerun
import CaseGrid.Proofs.Suite.Titles
import CaseGrid.Proofs.Text.Alignment
import CaseGrid.Proofs.Text.Columns
import CaseGrid.Proofs.Text.Glue
import CaseGrid.Proofs.Text.Pieces
import CaseGrid.Proofs.Text.Table
import CaseGrid.Proofs.Tree.Building
import CaseGrid.Proofs.Tree.Filing
import CaseGrid.Proofs.Tree.Grouping
import CaseGrid.Proofs.Tree.Listing
import CaseGrid.Proofs.Tree.Outline
import CaseGrid.Proofs.Tree.Product
import CaseGrid.Proofs.Tree.Scenarios
import CaseGrid.Proofs.Validation.Rejection
import CaseGrid.Proofs.Validation.Rules
import CaseGrid.Proofs.Value.Entries
import CaseGrid.Proofs.Value.Identity
import CaseGrid.Proofs.Value.Overlay
import CaseGrid.Proofs.Value.Texts
import CaseGrid.Proofs.Yaml.Assigning
import CaseGrid.Proofs.Yaml.Building
import CaseGrid.Proofs.Yaml.Cells
import CaseGrid.Proofs.Yaml.Filling
import CaseGrid.Proofs.Yaml.Keys
import CaseGrid.Proofs.Yaml.Merging
import CaseGrid.Proofs.Yaml.Numbering
import CaseGrid.Proofs.Yaml.Operations
import CaseGrid.Proofs.Yaml.Origin
import CaseGrid.Proofs.Yaml.Reaching
import CaseGrid.Proofs.Yaml.TakingOver
import CaseGrid.Run
import CaseGrid.Scenario.Basic
import CaseGrid.Scenario.Program
import CaseGrid.Scenario.Step
import CaseGrid.Scenario.Variable
import CaseGrid.Selection
import CaseGrid.Session
import CaseGrid.Suite
import CaseGrid.Text.Alphanumeric
import CaseGrid.Text.Base64
import CaseGrid.Text.Blank
import CaseGrid.Text.CaseTable
import CaseGrid.Text.Digit
import CaseGrid.Text.Identifier
import CaseGrid.Text.IdentifierTable
import CaseGrid.Text.LetterCase
import CaseGrid.Text.Pattern
import CaseGrid.Text.Points
import CaseGrid.Text.PrintableTable
import CaseGrid.Text.Quoted
import CaseGrid.Text.Ranges
import CaseGrid.Text.Split
import CaseGrid.Text.Table
import CaseGrid.Tree
import CaseGrid.Validation
import CaseGrid.Value.Basic
import CaseGrid.Value.Digest
import CaseGrid.Value.Equality
import CaseGrid.Value.Items
import CaseGrid.Value.SetOrder
import CaseGrid.Value.Written
import CaseGrid.Yaml.Cursor
import CaseGrid.Yaml.Data
import CaseGrid.Yaml.Document
import CaseGrid.Yaml.Event.Basic
import CaseGrid.Yaml.Event.Grammar
import CaseGrid.Yaml.Feed
import CaseGrid.Yaml.Mark
import CaseGrid.Yaml.Merge
import CaseGrid.Yaml.Node
import CaseGrid.Yaml.Tag
import CaseGrid.Yaml.Tagged
import CaseGrid.Yaml.Token.Basic
import CaseGrid.Yaml.Token.Scalar
import CaseGrid.Yaml.Token.Stream
import CaseGrid.Yaml.Token.Word
import CaseGrid.Yaml.Trouble

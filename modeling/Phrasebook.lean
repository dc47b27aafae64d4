import Phrasebook.Catalog.Basic
import Phrasebook.Catalog.Entry
import Phrasebook.Catalog.Store
import Phrasebook.Command.Arguments
import Phrasebook.Command.Basic
import Phrasebook.Component.Accessor
import Phrasebook.Component.Eligibility
import Phrasebook.Component.Literal
import Phrasebook.Component.Migration
import Phrasebook.Component.Naming
import Phrasebook.Component.Options
import Phrasebook.Config.Basic
import Phrasebook.Config.Discovery
import Phrasebook.Config.Reader
import Phrasebook.Decimal.Binary
import Phrasebook.Decimal.Shortest
import Phrasebook.Disk.Basic
import Phrasebook.Disk.Replace
import Phrasebook.Disk.Workspace
import Phrasebook.Glob.Pattern
import Phrasebook.Json.Printer
import Phrasebook.Json.Reader
import Phrasebook.Json.Value
import Phrasebook.Main
import Phrasebook.Markup.Attribute
import Phrasebook.Markup.Entity
import Phrasebook.Mock.Shuffle
import Phrasebook.Path.Basic
import Phrasebook.Run.Migrate
import Phrasebook.Run.Report
import Phrasebook.Run.Settings
import Phrasebook.Scan.Files
import Phrasebook.Scan.Ignore
import Phrasebook.Script.Class
import Phrasebook.Script.Cursor
import Phrasebook.Script.Dialect
import Phrasebook.Script.Element
import Phrasebook.Script.Expression
import Phrasebook.Script.Function
import Phrasebook.Script.Item
import Phrasebook.Script.Parser
import Phrasebook.Script.Pattern
import Phrasebook.Script.Shape
import Phrasebook.Script.Statement
import Phrasebook.Script.StringLiteral
import Phrasebook.Script.Token
import Phrasebook.Script.Tree
import Phrasebook.Script.TypeAnnotation
import Phrasebook.Script.TypeDeclaration
import Phrasebook.Script.Variable
import Phrasebook.Script.Word
import Phrasebook.Slug.Basic
import Phrasebook.Slug.Latin
import Phrasebook.Slug.Word
import Phrasebook.Source.Edit
import Phrasebook.Source.Span
import Phrasebook.Terminal.Report
import Phrasebook.Terminal.Style
import Phrasebook.Text.AlphabeticTable
import Phrasebook.Text.CaseIgnorableTable
import Phrasebook.Text.CasedTable
import Phrasebook.Text.Class
import Phrasebook.Text.CodePoint
import Phrasebook.Text.IdentifierPartTable
import Phrasebook.Text.IdentifierStartTable
import Phrasebook.Text.Lowercase
import Phrasebook.Text.LowercaseTable
import Phrasebook.Text.NumericTable
import Phrasebook.Text.Phrase
import Phrasebook.Text.Quoted
import Phrasebook.Text.UppercaseTable
import Phrasebook.Proofs.Catalog.Building
import Phrasebook.Proofs.Catalog.Insertion
import Phrasebook.Proofs.Catalog.Merged
import Phrasebook.Proofs.Catalog.Parity
import Phrasebook.Proofs.Catalog.Readback
import Phrasebook.Proofs.Catalog.Resaving
import Phrasebook.Proofs.Catalog.Spelling
import Phrasebook.Proofs.Command.ExitStatus
import Phrasebook.Proofs.Component.Accessor
import Phrasebook.Proofs.Component.Bindings
import Phrasebook.Proofs.Component.Edits
import Phrasebook.Proofs.Component.Generated
import Phrasebook.Proofs.Component.Idempotence
import Phrasebook.Proofs.Component.Literal
import Phrasebook.Proofs.Component.Lookup
import Phrasebook.Proofs.Component.Mark
import Phrasebook.Proofs.Component.Reach
import Phrasebook.Proofs.Component.Shown
import Phrasebook.Proofs.Config.Discovery
import Phrasebook.Proofs.Config.Effective
import Phrasebook.Proofs.Disk.Atomic
import Phrasebook.Proofs.Mock.Shuffle
import Phrasebook.Proofs.Run.AllOrNothing
import Phrasebook.Proofs.Run.Cataloged
import Phrasebook.Proofs.Run.DryRun
import Phrasebook.Proofs.Run.Independence
import Phrasebook.Proofs.Run.Isolation
import Phrasebook.Proofs.Run.Rerun
import Phrasebook.Proofs.Run.Written
import Phrasebook.Proofs.Scan.Exact
import Phrasebook.Proofs.Script.StringLiteral
import Phrasebook.Proofs.Slug.Shape
import Phrasebook.Proofs.Slug.Splitting
import Phrasebook.Proofs.Slug.Stable
import Phrasebook.Proofs.Source.Order
import Phrasebook.Proofs.Source.Rewritten
import Phrasebook.Proofs.Text.Phrase

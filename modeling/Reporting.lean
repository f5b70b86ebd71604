import Reporting.Text.Letters
import Reporting.Plan
import Reporting.Data.Files
import Reporting.Data.Json.Writer
import Reporting.Sheet.Renderers
import Reporting.Archive
import Reporting.Delivery
import Reporting.Settings
import Reporting.Programs
import Reporting.Main
import Reporting.Proofs.Text.Scanning
import Reporting.Proofs.Text.Decimal
import Reporting.Proofs.Text.Pieces
import Reporting.Proofs.Sql.Lexeme
import Reporting.Proofs.Sql.Lexing
import Reporting.Proofs.Sql.Spacing
import Reporting.Proofs.Sql.Reader
import Reporting.Proofs.Sql.Reading
import Reporting.Proofs.Sql.Columns
import Reporting.Proofs.Sql.Quoting
import Reporting.Proofs.Sql.Canonical
import Reporting.Proofs.Sql.Precedence
import Reporting.Proofs.Sql.Grouping
import Reporting.Proofs.Sql.Truth
import Reporting.Proofs.Catalog.FieldSet
import Reporting.Proofs.Catalog.Index
import Reporting.Proofs.Plan.Conditions
import Reporting.Proofs.Plan.Statement
import Reporting.Proofs.Plan.Ordering
import Reporting.Proofs.Plan.Meaning
import Reporting.Proofs.Plan.Projection
import Reporting.Proofs.Plan.Selection
import Reporting.Proofs.Plan.Columns
import Reporting.Proofs.Plan.Provenance
import Reporting.Proofs.Plan.Fetched
import Reporting.Proofs.Processing.Sections
import Reporting.Proofs.Processing.Cells
import Reporting.Proofs.Processing.Repeats
import Reporting.Proofs.Sheet.Records
import Reporting.Proofs.Sheet.Outline
import Reporting.Proofs.Sheet.Skeleton
import Reporting.Proofs.Files.Path
import Reporting.Proofs.Files.Tree
import Reporting.Proofs.Files.Fresh
import Reporting.Proofs.Archive.Places
import Reporting.Proofs.Delivery.Outcome
import Reporting.Proofs.Archive.Directory
import Reporting.Proofs.Delivery.Cleanup
import Reporting.Proofs.Delivery.Slots
import Reporting.Proofs.Delivery.Contract
import Reporting.Proofs.Data.Definitions
import Reporting.Proofs.Cli.Comments
import Reporting.Proofs.Sql.Delimiting
import Reporting.Proofs.Plan.Keys
import Reporting.Proofs.Archive.Names
import Reporting.Proofs.Sheet.Formats
import Reporting.Proofs.Convert.Arguments
import Reporting.Proofs.Convert.Remains
import Reporting.Proofs.Environment
import Reporting.Proofs.Binary64.Whole
import Reporting.Proofs.Processing.Nulls
import Reporting.Proofs.Processing.Wholes
import Reporting.Proofs.Format.Grouping
import Reporting.Proofs.Format.Currency

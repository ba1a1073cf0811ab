import SchemaEvolution.Files.Tree
import SchemaEvolution.Main
import SchemaEvolution.Proofs.Declaration.RoundTrip
import SchemaEvolution.Proofs.Plan.Accounting
import SchemaEvolution.Proofs.Plan.Execution
import SchemaEvolution.Proofs.Plan.KeyExecution
import SchemaEvolution.Proofs.Plan.Order
import SchemaEvolution.Proofs.Plan.Unchanged
import SchemaEvolution.Proofs.Report.MigrationFile
import SchemaEvolution.Proofs.Catalog.Override
import SchemaEvolution.Proofs.Declaration.Sequence
import SchemaEvolution.Proofs.Declaration.WellFormed
import SchemaEvolution.Proofs.Catalog.Placement
import SchemaEvolution.Proofs.Plan.SharedDeclarations
import SchemaEvolution.Proofs.Double.Order
import SchemaEvolution.Proofs.Double.Quotient
import SchemaEvolution.Proofs.Plan.BestChoice
import SchemaEvolution.Proofs.Plan.BestFirst
import SchemaEvolution.Proofs.Plan.TypeExecution
import SchemaEvolution.Proofs.Plan.Overlap
import SchemaEvolution.Proofs.Plan.Unfillable
import SchemaEvolution.Proofs.Plan.Announcement
import SchemaEvolution.Proofs.Plan.Copies
import SchemaEvolution.Proofs.Plan.Credibility
import SchemaEvolution.Proofs.Plan.AddedValues
import SchemaEvolution.Proofs.Declaration.ClauseGrammar
import SchemaEvolution.Proofs.Declaration.Layout
import SchemaEvolution.Proofs.Plan.ColumnOrder
import SchemaEvolution.Proofs.Declaration.TrailingClause
import SchemaEvolution.Proofs.Declaration.CommentMarks
import SchemaEvolution.Proofs.Report.Terminators

import SchemaTree.Check
import SchemaTree.Json.Reader
import SchemaTree.Json.Render
import SchemaTree.Generator
import SchemaTree.Proofs.Failure
import SchemaTree.Proofs.Mirror
import SchemaTree.Proofs.Sharing
import SchemaTree.Proofs.Report
import SchemaTree.Proofs.Completion
import SchemaTree.Proofs.Override
import SchemaTree.Proofs.Essence
import SchemaTree.Proofs.Extraction
import SchemaTree.Proofs.Sites
import SchemaTree.Proofs.NamedTypes
import SchemaTree.Proofs.Nullability
import SchemaTree.Proofs.Growth
import SchemaTree.Proofs.Route
import SchemaTree.Proofs.Compositional
import SchemaTree.Proofs.Referenced
import SchemaTree.Proofs.Tally
import SchemaTree.Proofs.LeafKeywords
import SchemaTree.Proofs.Assembly
import SchemaTree.Proofs.FirstFinished
import SchemaTree.Proofs.Enums
import SchemaTree.Proofs.Agreement
import SchemaTree.Proofs.Located
import SchemaTree.Proofs.Shape
import SchemaTree.Proofs.DecimalText
import SchemaTree.Proofs.Evaluation
import SchemaTree.Proofs.PathText

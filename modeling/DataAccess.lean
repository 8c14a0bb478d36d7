import DataAccess.Main
import DataAccess.Proofs.Declaration.SchemaPrefix
import DataAccess.Proofs.Generation.Assembly
import DataAccess.Proofs.Generation.CatalogOrder
import DataAccess.Proofs.Generation.Isolation
import DataAccess.Proofs.Generation.Members
import DataAccess.Proofs.Generation.Methods
import DataAccess.Proofs.Generation.Names
import DataAccess.Proofs.Generation.Placeholders
import DataAccess.Proofs.Generation.Problems
import DataAccess.Proofs.Generation.QueryOrder
import DataAccess.Proofs.Generation.References
import DataAccess.Proofs.Generation.Requirements
import DataAccess.Proofs.Generation.Signatures
import DataAccess.Proofs.Generation.SystemSchemas
import DataAccess.Proofs.Generation.TableNames
import DataAccess.Proofs.Naming.SingularTwice
import DataAccess.Proofs.Naming.WordStarts
import DataAccess.Proofs.Query.ReadBack
import DataAccess.Proofs.Query.Reuse
import DataAccess.Proofs.Query.Rows
import DataAccess.Proofs.Query.WholeTable
import DataAccess.Proofs.Request.RoundTrip

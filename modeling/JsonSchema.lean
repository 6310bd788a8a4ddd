import JsonSchema.Number.Decimal
import JsonSchema.Number.Scaling
import JsonSchema.Json.TypeName
import JsonSchema.Json.Reader
import JsonSchema.Json.Quoted
import JsonSchema.Pointer
import JsonSchema.Text.Percent
import JsonSchema.Unicode.Property
import JsonSchema.Unicode.Script
import JsonSchema.Unicode.CaseFolding
import JsonSchema.Uri.Address
import JsonSchema.Uri.Path
import JsonSchema.Uri.Target
import JsonSchema.Regex.Basic
import JsonSchema.Yaml.Reader
import JsonSchema.Yaml.ToJson
import JsonSchema.Main
import JsonSchema.Proofs.Evaluation.Cap
import JsonSchema.Proofs.Evaluation.Verdict
import JsonSchema.Proofs.Evaluation.Overflow
import JsonSchema.Proofs.Direct.Refinement
import JsonSchema.Proofs.Direct.Contents
import JsonSchema.Proofs.Direct.Report
import JsonSchema.Proofs.Direct.Supply
import JsonSchema.Proofs.Direct.Located
import JsonSchema.Proofs.Evaluation.InPlace
import JsonSchema.Proofs.Evaluation.Limit
import JsonSchema.Proofs.Evaluation.EarlyExit
import JsonSchema.Proofs.Direct.Repeated
import JsonSchema.Proofs.Direct.SchemaPresentation
import JsonSchema.Proofs.Compilation.Grammar
import JsonSchema.Proofs.Compilation.Leftovers
import JsonSchema.Proofs.Evaluation.Selection
import JsonSchema.Proofs.Compilation.Relinking
import JsonSchema.Proofs.Evaluation.Whereabouts
import JsonSchema.Proofs.Direct.Malformed
import JsonSchema.Proofs.Direct.Once
import JsonSchema.Proofs.Direct.Multiples
import JsonSchema.Proofs.Direct.Equality
import JsonSchema.Proofs.Direct.Bounds
import JsonSchema.Proofs.Direct.Counts
import JsonSchema.Proofs.Addressing.Text
import JsonSchema.Proofs.Addressing.Locations
import JsonSchema.Proofs.Direct.Binding
import JsonSchema.Proofs.Yaml.Conversion
import JsonSchema.Proofs.Command.Batch
import JsonSchema.Proofs.Command.Documents
import JsonSchema.Proofs.Evaluation.Balance
import JsonSchema.Proofs.Compilation.Identity

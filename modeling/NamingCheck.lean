import NamingCheck.Main
import NamingCheck.Proofs.Declarator.FunctionLayer
import NamingCheck.Proofs.Declarator.Operators
import NamingCheck.Proofs.Declarator.Scopes
import NamingCheck.Proofs.Declarator.Tower
import NamingCheck.Proofs.Declarator.Variable
import NamingCheck.Proofs.Declarator.Walks
import NamingCheck.Proofs.Entity.Calls
import NamingCheck.Proofs.Entity.Coherent
import NamingCheck.Proofs.Entity.Preorder
import NamingCheck.Proofs.Glob.Depth
import NamingCheck.Proofs.Glob.Set
import NamingCheck.Proofs.Json.Decoding
import NamingCheck.Proofs.Json.Grammar
import NamingCheck.Proofs.Json.Parsing
import NamingCheck.Proofs.Json.Records
import NamingCheck.Proofs.Json.RoundTrip
import NamingCheck.Proofs.Json.Scanning
import NamingCheck.Proofs.Json.Spelling
import NamingCheck.Proofs.Json.Truncation
import NamingCheck.Proofs.Lowering.Alike
import NamingCheck.Proofs.Lowering.Callables
import NamingCheck.Proofs.Lowering.Coherent
import NamingCheck.Proofs.Lowering.Comments
import NamingCheck.Proofs.Lowering.Constructor
import NamingCheck.Proofs.Lowering.Moved
import NamingCheck.Proofs.Lowering.Namespaces
import NamingCheck.Proofs.Lowering.Operators
import NamingCheck.Proofs.Lowering.Ownership
import NamingCheck.Proofs.Lowering.SourceOrder
import NamingCheck.Proofs.Lowering.Steps
import NamingCheck.Proofs.Lowering.TemplateHeaders
import NamingCheck.Proofs.Lowering.Unread
import NamingCheck.Proofs.Lowering.Wrapping
import NamingCheck.Proofs.Output.Document
import NamingCheck.Proofs.Output.Trace
import NamingCheck.Proofs.Path.Components
import NamingCheck.Proofs.Run.Counts
import NamingCheck.Proofs.Run.ErrorLine
import NamingCheck.Proofs.Run.Events
import NamingCheck.Proofs.Run.Exemption
import NamingCheck.Proofs.Run.ExitCode
import NamingCheck.Proofs.Run.Expansion
import NamingCheck.Proofs.Run.FatalErrors
import NamingCheck.Proofs.Run.Formats
import NamingCheck.Proofs.Run.Plan
import NamingCheck.Proofs.Run.Refusal
import NamingCheck.Proofs.Run.SingleRuns
import NamingCheck.Proofs.Run.Workers
import NamingCheck.Proofs.Run.Writing
import NamingCheck.Proofs.Settings.Loading
import NamingCheck.Proofs.Settings.Partial
import NamingCheck.Proofs.Snapshot.Findings
import NamingCheck.Proofs.Snapshot.Listing
import NamingCheck.Proofs.Snapshot.LooksLike
import NamingCheck.Proofs.Snapshot.Reach
import NamingCheck.Proofs.Snapshot.Reparsed
import NamingCheck.Proofs.Snapshot.Unruled
import NamingCheck.Proofs.Snapshot.WellNamed
import NamingCheck.Proofs.SyntaxTree.Faults
import NamingCheck.Proofs.SyntaxTree.Related
import NamingCheck.Proofs.Text.Parts
import NamingCheck.Proofs.Verdict.Exemption
import NamingCheck.Proofs.Verdict.Forest
import NamingCheck.Proofs.Verdict.Report
import NamingCheck.Proofs.Verdict.Rules

import StackAudit.Text.Blank
import StackAudit.Binary64.Decimal
import StackAudit.Table
import StackAudit.Json.Decoding
import StackAudit.Instant.Text
import StackAudit.Instant.Reader
import StackAudit.AddressBlock.Reader
import StackAudit.Text.Decomposition
import StackAudit.Text.DigitTable
import StackAudit.Pattern.Wildcard
import StackAudit.Pattern.Search
import StackAudit.Node
import StackAudit.Resolution
import StackAudit.Template.Resolved
import StackAudit.Template.PolicyDocuments
import StackAudit.Condition.State
import StackAudit.Catalog.Bundled
import StackAudit.Policy.Query
import StackAudit.Proofs.Calls
import StackAudit.Proofs.Resolution.Locality
import StackAudit.Proofs.Sequencing
import StackAudit.Proofs.Template.ConditionOrder
import StackAudit.Proofs.Template.ConditionRuns
import StackAudit.Proofs.Json.Distinct
import StackAudit.Proofs.Resolution.Data
import StackAudit.Proofs.Parameter.Effective
import StackAudit.Proofs.Template.Secrecy
import StackAudit.Proofs.Policy.Commutation
import StackAudit.Proofs.Condition.Interpretation
import StackAudit.Proofs.Resolution.CallForms
import StackAudit.Proofs.Resolution.Replacement
import StackAudit.Proofs.Template.Survival
import StackAudit.Proofs.Resolution.WellShaped
import StackAudit.Proofs.Template.Completion
import StackAudit.Proofs.Resolution.Remnants
import StackAudit.Proofs.Template.Marks
import StackAudit.Proofs.Policy.CallFree
import StackAudit.Proofs.Policy.Findings
import StackAudit.Proofs.Text.ByteOrder
import StackAudit.Proofs.Pattern.Matching
import StackAudit.Proofs.Catalog.Expansion
import StackAudit.Proofs.Policy.Privileges
import StackAudit.Proofs.Policy.Grants
import StackAudit.Proofs.Condition.Caching
import StackAudit.Proofs.Json.CallFree
import StackAudit.Proofs.Template.Loading
import StackAudit.Proofs.Json.RoundTrip
import StackAudit.Proofs.Policy.RoundTrip
import StackAudit.Pattern.Expression
import StackAudit.Proofs.Pattern.Search
import StackAudit.Proofs.Pattern.Expression
import StackAudit.Proofs.Text.CaseFolding
import StackAudit.Proofs.Resolution.Substitution
import StackAudit.Proofs.Resolution.Joining
import StackAudit.Proofs.Resolution.Pruning
import StackAudit.Proofs.Condition.Names
import StackAudit.Proofs.Condition.Quantifiers
import StackAudit.Proofs.Condition.Duality
import StackAudit.Proofs.Condition.Guards
import StackAudit.Proofs.AddressBlock.Containment
import StackAudit.Proofs.AddressBlock.Reading
import StackAudit.Proofs.Condition.Addresses
import StackAudit.Proofs.Instant.Calendar
import StackAudit.Proofs.Instant.Text
import StackAudit.Proofs.Condition.Dates
import StackAudit.Proofs.Parameter.Lists
import StackAudit.Proofs.Template.Occurrences
import StackAudit.Proofs.Equality
import StackAudit.Proofs.Policy.Whitelist
import StackAudit.Proofs.Correspondence

import ClientModel.Decimal.Double
import ClientModel.Decimal.Notation
import ClientModel.Decimal.Shortest
import ClientModel.Derivation.Basic
import ClientModel.Derivation.ClientTree
import ClientModel.Derivation.Clients
import ClientModel.Derivation.ContentType
import ClientModel.Derivation.Error
import ClientModel.Derivation.Http
import ClientModel.Derivation.Methods
import ClientModel.Derivation.NameRegistry
import ClientModel.Derivation.Naming
import ClientModel.Derivation.Nodes
import ClientModel.Derivation.Parameter
import ClientModel.Derivation.PollingLink
import ClientModel.Derivation.Reach
import ClientModel.Derivation.ServiceParameters
import ClientModel.Derivation.Sources
import ClientModel.Derivation.State
import ClientModel.Derivation.StatusMonitor
import ClientModel.Diagnostic
import ClientModel.Document.Printer
import ClientModel.Document.Reader
import ClientModel.Document.Value
import ClientModel.Ids
import ClientModel.Options
import ClientModel.OrderedMap
import ClientModel.Package.Basic
import ClientModel.Package.Builtin
import ClientModel.Package.Client
import ClientModel.Package.Export
import ClientModel.Package.Method
import ClientModel.Package.Node
import ClientModel.Package.Property
import ClientModel.Service.Container
import ClientModel.Service.Customization
import ClientModel.Service.Definition
import ClientModel.Service.Draft
import ClientModel.Service.Literal
import ClientModel.Service.Operation
import ClientModel.Service.Payload
import ClientModel.Service.Property
import ClientModel.Service.Scoped
import ClientModel.Service.Type
import ClientModel.Text.Ascii
import ClientModel.Text.Blank
import ClientModel.Text.CaseMapping
import ClientModel.Text.Identifier
import ClientModel.Text.Letters
import ClientModel.Text.Run
import ClientModel.Text.Singular
import ClientModel.Text.Words
import ClientModel.Usage
import ClientModel.Proofs.Catalogue
import ClientModel.Proofs.ClientTree
import ClientModel.Proofs.Reach
import ClientModel.Proofs.Steps
import ClientModel.Proofs.Runs
import ClientModel.Proofs.Growth
import ClientModel.Proofs.Sources
import ClientModel.Proofs.Closure
import ClientModel.Proofs.Landing
import ClientModel.Proofs.Recursion
import ClientModel.Proofs.Accounts
import ClientModel.Proofs.Appending
import ClientModel.Proofs.Arrangement
import ClientModel.Proofs.ClientParameters
import ClientModel.Proofs.Coverage
import ClientModel.Proofs.Exports
import ClientModel.Proofs.Notes
import ClientModel.Proofs.Initialization
import ClientModel.Proofs.Completeness
import ClientModel.Proofs.Identity
import ClientModel.Proofs.Subtypes
import ClientModel.Proofs.Access
import ClientModel.Proofs.Scopes
import ClientModel.Proofs.Searches
import ClientModel.Proofs.Serving
import ClientModel.Proofs.Leads
import ClientModel.Proofs.Alike
import ClientModel.Proofs.Siblings
import ClientModel.Proofs.Pairs
import ClientModel.Proofs.Twins
import ClientModel.Proofs.TwinNodes
import ClientModel.Proofs.TwinMethods
import ClientModel.Proofs.TwinClients
import ClientModel.Proofs.TwinPackages
import ClientModel.Proofs.Noninterference
import ClientModel.Proofs.Convenience
import ClientModel.Proofs.Renaming
import ClientModel.Proofs.PollingLink
import ClientModel.Proofs.Encoding
import ClientModel.Proofs.Documents
import ClientModel.Proofs.CrossIds
import ClientModel.Proofs.Constructors
import ClientModel.Proofs.NameRegistry
import ClientModel.Proofs.ContextPath
import ClientModel.Proofs.Folding
import ClientModel.Proofs.Polling
import ClientModel.Proofs.Links
import ClientModel.Proofs.Tracing
import ClientModel.Proofs.Segments
import ClientModel.Proofs.Bodies
import ClientModel.Proofs.Acceptance
import ClientModel.Proofs.Pages
import ClientModel.Proofs.Monitors
import ClientModel.Proofs.Negotiation
import ClientModel.Proofs.Endpoints
import ClientModel.Proofs.Multipart
import ClientModel.Proofs.Formats
import ClientModel.Proofs.Versions
import ClientModel.Proofs.Pruning
import ClientModel.Proofs.Successes
import ClientModel.Proofs.Termination
import ClientModel.Proofs.Words
import ClientModel.Proofs.PascalCase
import ClientModel.Proofs.Origins
import ClientModel.Proofs.Tours
import ClientModel.Proofs.Ascents
import ClientModel.Proofs.Counterparts
import ClientModel.Proofs.Demands
import ClientModel.Proofs.Reasons
import ClientModel.Proofs.Planting
import ClientModel.Proofs.Extension
import ClientModel.Proofs.Monotonicity

import TenantAccess.Text.Blank
import TenantAccess.Fault
import TenantAccess.Identifier
import TenantAccess.Identifier.Mint
import TenantAccess.Listing
import TenantAccess.Configuration
import TenantAccess.Dataset
import TenantAccess.Json.Token
import TenantAccess.Json.Document
import TenantAccess.Text.Quoted
import TenantAccess.Decimal.Shortest
import TenantAccess.Json.Codec
import TenantAccess.Format.Configuration
import TenantAccess.Loading
import TenantAccess.Store.Table
import TenantAccess.Query
import TenantAccess.Resolver.Question
import TenantAccess.Store.Memory
import TenantAccess.Store.Listed
import TenantAccess.Store.Outage
import TenantAccess.Format.Answer
import TenantAccess.CommandLine.Execution
import TenantAccess.Main
import TenantAccess.Proofs.Query
import TenantAccess.Proofs.Listing
import TenantAccess.Proofs.Store.History
import TenantAccess.Proofs.Store.Contents
import TenantAccess.Proofs.Store.Service
import TenantAccess.Proofs.LabelMap
import TenantAccess.Proofs.Subject
import TenantAccess.Proofs.Rights
import TenantAccess.Proofs.Visibility
import TenantAccess.Proofs.Isolation
import TenantAccess.Proofs.Vetting
import TenantAccess.Proofs.Replies
import TenantAccess.Proofs.Query.Coupling
import TenantAccess.Proofs.Redundancy
import TenantAccess.Proofs.Origin
import TenantAccess.Proofs.Decision
import TenantAccess.Proofs.Interleaving
import TenantAccess.Proofs.Secrecy
import TenantAccess.Proofs.Reliance
import TenantAccess.Proofs.Store.Listed
import TenantAccess.Proofs.Reads
import TenantAccess.Proofs.Settings
import TenantAccess.Proofs.Supervisor
import TenantAccess.Proofs.Holdings
import TenantAccess.Proofs.Superset
import TenantAccess.Proofs.Labels
import TenantAccess.Proofs.Query.Trace
import TenantAccess.Proofs.Stages
import TenantAccess.Proofs.Discipline
import TenantAccess.Proofs.Footprint
import TenantAccess.Proofs.Walk
import TenantAccess.Proofs.WellFormed
import TenantAccess.Proofs.Justification
import TenantAccess.Proofs.Granting
import TenantAccess.Proofs.Clearing
import TenantAccess.Proofs.Leasing
import TenantAccess.Proofs.Json.Token
import TenantAccess.Proofs.Json.Document
import TenantAccess.Proofs.Json.Omission
import TenantAccess.Proofs.Format.Dataset
import TenantAccess.Proofs.Execution
import TenantAccess.Proofs.Format.Configuration
import TenantAccess.Proofs.Scoping
import TenantAccess.Proofs.Binding
import TenantAccess.Proofs.Complement
import TenantAccess.Proofs.Reach
import TenantAccess.Proofs.Store.Filling
import TenantAccess.Proofs.Store.Table
import TenantAccess.Proofs.Identifier

import Fleet.Config
import Fleet.Credential.Access
import Fleet.Credential.Cache
import Fleet.Decimal.Double
import Fleet.Decimal.Reading
import Fleet.Decimal.Shortest
import Fleet.Dict
import Fleet.Exchange.Change
import Fleet.Exchange.Cluster
import Fleet.Exchange.Repo
import Fleet.Exchange.Tenant
import Fleet.Fact
import Fleet.Handshake.Account
import Fleet.Handshake.Bundle
import Fleet.Handshake.Handshake
import Fleet.Http.Message
import Fleet.Http.Route
import Fleet.Ident
import Fleet.Instant
import Fleet.Json.Decoder
import Fleet.Json.Document
import Fleet.Json.Layout
import Fleet.Json.Printer
import Fleet.Json.Reader
import Fleet.Json.Value
import Fleet.Metrics
import Fleet.Program
import Fleet.Proofs.Access
import Fleet.Proofs.Answers
import Fleet.Proofs.Coherence
import Fleet.Proofs.CompileReports
import Fleet.Proofs.Concealment
import Fleet.Proofs.Credential.Cache
import Fleet.Proofs.Delivery
import Fleet.Proofs.DesiredState
import Fleet.Proofs.DynamicFacts
import Fleet.Proofs.Exchange.Kept
import Fleet.Proofs.Generation
import Fleet.Proofs.Handshake
import Fleet.Proofs.Http.Route
import Fleet.Proofs.Ident
import Fleet.Proofs.InstallUrl
import Fleet.Proofs.Json.Stable
import Fleet.Proofs.Json.Survival
import Fleet.Proofs.LeastRecent
import Fleet.Proofs.Listing
import Fleet.Proofs.Merge
import Fleet.Proofs.NoLostUpdate
import Fleet.Proofs.OldestSecret
import Fleet.Proofs.Rejection
import Fleet.Proofs.Repetition
import Fleet.Proofs.Replacement
import Fleet.Proofs.RepositoryUrl
import Fleet.Proofs.RoundTrip
import Fleet.Proofs.Separation
import Fleet.Proofs.Service.Alone
import Fleet.Proofs.Service.Clients
import Fleet.Proofs.Service.Dated
import Fleet.Proofs.Service.Handshake
import Fleet.Proofs.Service.Identity
import Fleet.Proofs.Service.Mirror
import Fleet.Proofs.Service.Sparing
import Fleet.Proofs.Shown
import Fleet.Proofs.SingleUse
import Fleet.Proofs.Store.Renaming
import Fleet.Proofs.StrictBody
import Fleet.Proofs.TenantDefaults
import Fleet.Proofs.TenantRepository
import Fleet.Proofs.Text.Order
import Fleet.Proofs.Text.Strict
import Fleet.Proofs.Text.Utf8
import Fleet.Proofs.Untouched
import Fleet.Proofs.Url.Form
import Fleet.Proofs.Url.Location
import Fleet.Proofs.WellFormed
import Fleet.Proofs.WireFormat
import Fleet.Proofs.WriteBack
import Fleet.Record.Cluster
import Fleet.Record.Reason
import Fleet.Record.Repo
import Fleet.Record.Tenant
import Fleet.Resource.Cluster
import Fleet.Resource.CompileMeta
import Fleet.Resource.Definition
import Fleet.Resource.Metadata
import Fleet.Resource.Repo
import Fleet.Resource.Schema
import Fleet.Resource.Secret
import Fleet.Resource.Tenant
import Fleet.Service.Action
import Fleet.Service.Body
import Fleet.Service.Clusters
import Fleet.Service.Refusal
import Fleet.Service.Router
import Fleet.Service.Tenants
import Fleet.Service.World
import Fleet.Store.Call
import Fleet.Store.Memory
import Fleet.Store.Remote
import Fleet.Text.Base64
import Fleet.Text.Blank
import Fleet.Text.CombiningClass
import Fleet.Text.Composition
import Fleet.Text.CompositionTable
import Fleet.Text.Direction
import Fleet.Text.Joining
import Fleet.Text.Mark
import Fleet.Text.Printable
import Fleet.Text.Quoted
import Fleet.Text.Ranges
import Fleet.Text.Split
import Fleet.Text.Utf8
import Fleet.Url.Address
import Fleet.Url.Domain
import Fleet.Url.DomainTable
import Fleet.Url.Form
import Fleet.Url.Label
import Fleet.Url.Location
import Fleet.Url.Percent
import Fleet.Url.Punycode

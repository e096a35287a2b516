import Fleet.Resource.CompileMeta
import Fleet.Resource.Tenant

/-! # Stored clusters

The desired state of a cluster and the state observed of it: dynamic facts, the bootstrap token
that lets it fetch its manifests once, and the last compile report. -/

namespace Fleet.Resource

open Json

/-- The tenant that owns a cluster. -/
structure TenantRef where
  name : String := ""
  deriving DecidableEq

/-- References to tenants as objects. -/
def TenantRef.layout : Layout TenantRef where
  name := "TenantRef"
  blank := {}
  fields := [.defaulted "name" .text (·.name) (fun v _ => { name := v })]

/-- The desired state of a cluster. -/
structure ClusterSpec where
  displayName : String := ""
  gitRepoUrl : String := ""
  gitHostKeys : String := ""
  gitRepoTemplate : Option RepoTemplate := none
  tenantRef : TenantRef := {}
  facts : Dict String := .empty
  globalGitRepoRevision : String := ""
  tenantGitRepoRevision : String := ""
  deriving DecidableEq

/-- Desired states as objects. -/
def ClusterSpec.layout : Layout ClusterSpec where
  name := "ClusterSpec"
  blank := {}
  fields := [
    .textOrEmpty "displayName" (·.displayName) (fun v r => { r with displayName := v }),
    .textOrEmpty "gitRepoURL" (·.gitRepoUrl) (fun v r => { r with gitRepoUrl := v }),
    .textOrEmpty "gitHostKeys" (·.gitHostKeys) (fun v r => { r with gitHostKeys := v }),
    .optional "gitRepoTemplate" RepoTemplate.layout.codec (·.gitRepoTemplate)
      (fun v r => { r with gitRepoTemplate := v }),
    .defaulted "tenantRef" TenantRef.layout.codec (·.tenantRef)
      (fun v r => { r with tenantRef := v }),
    .dictOrEmpty "facts" .text (·.facts) (fun v r => { r with facts := v }),
    .textOrEmpty "globalGitRepoRevision" (·.globalGitRepoRevision)
      (fun v r => { r with globalGitRepoRevision := v }),
    .textOrEmpty "tenantGitRepoRevision" (·.tenantGitRepoRevision)
      (fun v r => { r with tenantGitRepoRevision := v })]

/-- A token that a cluster may use once to fetch its manifests. -/
structure BootstrapToken where
  token : String
  /-- Whether it is unused. -/
  valid : Bool
  /-- When it expires. -/
  validUntil : Instant
  deriving DecidableEq

namespace BootstrapToken

/-- Bootstrap tokens as objects. -/
def layout : Layout BootstrapToken where
  name := "BootstrapToken"
  blank := ⟨"", false, default⟩
  fields := [
    .required "token" .text (·.token) (fun v r => { r with token := v }),
    .defaulted "tokenValid" .bool (·.valid) (fun v r => { r with valid := v }),
    .required "validUntil" .instant (·.validUntil) (fun v r => { r with validUntil := v })]

/-- A token is usable while it is unused and has not expired. -/
def usableAt (t : BootstrapToken) (now : Instant) : Bool := t.valid && now.before t.validUntil

end BootstrapToken

/-- The observed state of a cluster. -/
structure ClusterStatus where
  bootstrapToken : Option BootstrapToken := none
  /-- Dynamic facts, each one a JSON text. -/
  facts : Dict String := .empty
  compileMeta : Option CompileMeta := none
  deriving DecidableEq

/-- Observed states as objects. -/
def ClusterStatus.layout : Layout ClusterStatus where
  name := "ClusterStatus"
  blank := {}
  fields := [
    .optional "bootstrapToken" BootstrapToken.layout.codec (·.bootstrapToken)
      (fun v r => { r with bootstrapToken := v }),
    .dictOrEmpty "facts" .text (·.facts) (fun v r => { r with facts := v }),
    .optional "compileMeta" CompileMeta.layout.codec (·.compileMeta)
      (fun v r => { r with compileMeta := v })]

/-- A stored cluster. -/
structure Cluster where
  metadata : Metadata := {}
  spec : ClusterSpec := {}
  status : Option ClusterStatus := none
  deriving DecidableEq

namespace Cluster

/-- Clusters as objects. -/
def layout : Layout Cluster where
  name := "Cluster"
  blank := {}
  fields := [
    .required "metadata" Metadata.codec (·.metadata) (fun v r => { r with metadata := v }),
    .required "spec" ClusterSpec.layout.codec (·.spec) (fun v r => { r with spec := v }),
    { Json.Field.optional "status" ClusterStatus.layout.codec (·.status)
        (fun v r => { r with status := v }) with
      presence := .defaultedInObject }]

/-- Clusters in both directions. -/
def codec : Codec Cluster := stamped "Cluster" layout

/-- What the cluster is called. -/
def name (c : Cluster) : String := c.metadata.nameAny

/-- The bootstrap token of the cluster. -/
def bootstrapToken? (c : Cluster) : Option BootstrapToken := c.status.bind (·.bootstrapToken)

/-- The label that names the owning tenant. -/
def tenantLabel : String := "syn.tools/tenant"

end Cluster
end Fleet.Resource

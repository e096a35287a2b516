import Fleet.Fact
import Fleet.Record.Repo

/-! # Public clusters

A cluster as clients see it: its id, its tenant, and the properties that a client may set; and the
order in which clusters are listed. -/

namespace Fleet.Record

open Json

/-- A compile report: when the compilation was, and everything else that was reported. -/
structure CompileReport where
  lastCompile : Option Instant := none
  details : Dict Value := .empty
  deriving DecidableEq

/-- Compile reports as objects. -/
def CompileReport.layout : Layout CompileReport where
  name := "ClusterCompileMeta"
  blank := {}
  fields := [
    .optional "lastCompile" .instant (·.lastCompile) (fun v r => { r with lastCompile := v })]
  remainder := some ⟨(·.details), fun v r => { r with details := v }⟩

/-- What a client may set of a cluster. -/
structure ClusterProperties where
  displayName : Option String := none
  annotations : Option Facts := none
  facts : Option Facts := none
  /-- Facts that the platform reports. -/
  dynamicFacts : Option Facts := none
  gitRepo : Option GitRepo := none
  globalGitRepoRevision : Option String := none
  tenantGitRepoRevision : Option String := none
  /-- Where the cluster fetches its manifests; shown while its token is usable, never set. -/
  installUrl : Option String := none
  compileMeta : Option CompileReport := none
  deriving DecidableEq

/-- Properties as objects. -/
def ClusterProperties.layout : Layout ClusterProperties where
  name := "ClusterProperties"
  blank := {}
  fields := [
    .optional "displayName" .text (·.displayName) (fun v r => { r with displayName := v }),
    .optional "annotations" Facts.codec (·.annotations) (fun v r => { r with annotations := v }),
    .optional "facts" Facts.codec (·.facts) (fun v r => { r with facts := v }),
    .optional "dynamicFacts" Facts.codec (·.dynamicFacts)
      (fun v r => { r with dynamicFacts := v }),
    .optional "gitRepo" GitRepo.layout.codec (·.gitRepo) (fun v r => { r with gitRepo := v }),
    .optional "globalGitRepoRevision" .text (·.globalGitRepoRevision)
      (fun v r => { r with globalGitRepoRevision := v }),
    .optional "tenantGitRepoRevision" .text (·.tenantGitRepoRevision)
      (fun v r => { r with tenantGitRepoRevision := v }),
    .optional "installURL" .text (·.installUrl) (fun v r => { r with installUrl := v }),
    .optional "compileMeta" CompileReport.layout.codec (·.compileMeta)
      (fun v r => { r with compileMeta := v })]

/-- A cluster. -/
structure Cluster where
  /-- The id; empty where one is still to be given. -/
  id : String := ""
  /-- The tenant that owns the cluster. -/
  tenant : String := ""
  properties : ClusterProperties := {}
  deriving DecidableEq

/-- Clusters as objects; id, tenant and properties stand side by side. -/
def Cluster.layout : Layout Cluster where
  name := "Cluster"
  blank := {}
  fields := []
  parts := [
    [.defaulted "id" .text (·.id) (fun v r => { r with id := v })],
    [.required "tenant" .text (·.tenant) (fun v r => { r with tenant := v })],
    ClusterProperties.layout.fields.map
      (·.within Cluster.properties (fun v r => { r with properties := v }))]

/-- What clusters are listed by. -/
inductive SortKey where
  | id
  | tenant
  | displayName
  deriving DecidableEq, Repr

namespace SortKey

/-- The name of a sort key. -/
def name : SortKey → String
  | .id => "id"
  | .tenant => "tenant"
  | .displayName => "displayName"

/-- The sort keys by name. -/
def all : List (String × SortKey) :=
  [("id", .id), ("tenant", .tenant), ("displayName", .displayName)]

/-- What a cluster is placed by; a missing display name counts as empty. -/
def of (key : SortKey) (c : Cluster) : String :=
  match key with
  | .id => c.id
  | .tenant => c.tenant
  | .displayName => c.properties.displayName.getD ""

end SortKey

/-- Clusters in the order of a key; those with equal keys stay in their order. -/
def sortClusters (key : SortKey) (clusters : List Cluster) : List Cluster :=
  clusters.mergeSort (fun a b => decide (key.of a ≤ key.of b))

end Fleet.Record

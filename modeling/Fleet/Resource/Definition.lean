import Fleet.Resource.Cluster
import Fleet.Resource.Schema

/-! # Definitions of the stored kinds

What an API server is told about tenants and clusters before it stores any: the names of the kind,
the columns of its listings, and the schema of its objects.  The texts that stand in for absent
values are those that the types themselves write. -/

namespace Fleet.Resource

open Json

/-- A kind of object that an API server is to store. -/
structure Definition where
  kind : String
  singular : String
  plural : String
  /-- The columns of listings: title and path. -/
  columns : List (String × String)
  /-- Whether the observed state is written by calls of its own. -/
  hasStatus : Bool
  schema : Schema

namespace Definition

/-- The group that the stored kinds belong to. -/
def group : String := "syn.tools"

/-- The version of the stored kinds. -/
def version : String := "v1alpha1"

/-- A column of listings as an object. -/
def column (c : String × String) : Value :=
  .ofMembers [("name", .string c.1), ("type", .string "string"), ("jsonPath", .string c.2)]

/-- The one version of a kind as an object. -/
def encodeVersion (d : Definition) : Value :=
  .ofMembers [
    ("name", .string version),
    ("served", .bool true),
    ("storage", .bool true),
    ("schema", .ofMembers [("openAPIV3Schema", d.schema.encode)]),
    ("additionalPrinterColumns", .array (d.columns.map column)),
    ("subresources",
      .ofMembers (if d.hasStatus then [("status", .ofMembers [])] else []))]

/-- A definition as an object. -/
def encode (d : Definition) : Value :=
  .ofMembers [
    ("apiVersion", .string "apiextensions.k8s.io/v1"),
    ("kind", .string "CustomResourceDefinition"),
    ("metadata", .ofMembers [("name", .string (d.plural ++ "." ++ group))]),
    ("spec", .ofMembers [
      ("group", .string group),
      ("names", .ofMembers [
        ("categories", .array []),
        ("kind", .string d.kind),
        ("plural", .string d.plural),
        ("shortNames", .array []),
        ("singular", .string d.singular)]),
      ("scope", .string "Namespaced"),
      ("versions", .array [d.encodeVersion])])]

end Definition

/-! ### Schemas -/

/-- References to secrets. -/
def SecretRef.schema : Schema :=
  (Schema.record [] [("name", .text), ("namespace", .text)]).described
    "Reference to the secret holding credentials for the git hosting API"

/-- Deploy keys. -/
def DeployKey.schema : Schema :=
  (Schema.record ["key", "type"] [
    ("type", .described .text "Key type, e.g. `ssh-ed25519`"),
    ("key", .described .text "Public key material"),
    ("writeAccess", .orElse .flag (.bool false))]).described
    "SSH deploy key granted access to the repository"

/-- Repository types. -/
def repoTypeSchema : Schema :=
  (Schema.choice (RepoType.all.map Prod.fst)).described
    "Whether the repository is managed by the git controller"

/-- Repository templates. -/
def RepoTemplate.schema : Schema :=
  (Schema.record [] [
    ("apiSecretRef", .orElse SecretRef.schema (SecretRef.layout.encode {})),
    ("deployKeys", .dict DeployKey.schema),
    ("path", .described .text "Group or namespace path on the git host"),
    ("repoName", .text),
    ("repoType", .orElse repoTypeSchema (RepoType.codec.encode .auto)),
    ("displayName", .text)]).described
    ("Git repository template\n\nPresent iff the repository is managed. An unmanaged template " ++
      "carries\nno path or name.")

/-- Desired states of tenants. -/
def TenantSpec.schema : Schema :=
  (Schema.record [] [
    ("displayName", .text),
    ("gitRepoURL", .described .text "Full URL of the tenant configuration repository"),
    ("gitRepoRevision", .text),
    ("globalGitRepoURL", .described .text "Full URL of the global configuration repository"),
    ("globalGitRepoRevision", .text),
    ("gitRepoTemplate", .nullable RepoTemplate.schema)]).described "Tenant desired state"

/-- References to tenants. -/
def TenantRef.schema : Schema :=
  (Schema.record [] [("name", .orElse .text (.string ""))]).described
    "Reference to the owning tenant"

/-- Desired states of clusters. -/
def ClusterSpec.schema : Schema :=
  (Schema.record [] [
    ("displayName", .text),
    ("gitRepoURL", .described .text "Full URL of the cluster catalog repository"),
    ("gitHostKeys", .described .text "SSH known hosts of the git server"),
    ("gitRepoTemplate", .nullable RepoTemplate.schema),
    ("tenantRef", .orElse TenantRef.schema (TenantRef.layout.encode {})),
    ("facts", .described (.dict .text) "Static facts, string values only"),
    ("globalGitRepoRevision", .text),
    ("tenantGitRepoRevision", .text)]).described "Cluster desired state"

/-- Bootstrap tokens. -/
def BootstrapToken.schema : Schema :=
  (Schema.record ["token", "validUntil"] [
    ("token", .text),
    ("tokenValid", .orElse .flag (.bool false)),
    ("validUntil", .text)]).described
    "Single-use token allowing a cluster to fetch its install manifest once"

/-- Compiler versions. -/
def BuildInfo.schema : Schema := .record [] [("version", .text), ("gitVersion", .text)]

/-- The fields of a version. -/
def VersionInfo.schemaFields : List (String × Schema) :=
  [("url", .text), ("gitSha", .text), ("version", .text), ("path", .text)]

/-- Versions. -/
def VersionInfo.schema : Schema := .record [] VersionInfo.schemaFields

/-- Versions of instances. -/
def InstanceInfo.schema : Schema := .record [] (("component", .text) :: VersionInfo.schemaFields)

/-- Compile metadata. -/
def CompileMeta.schema : Schema :=
  (Schema.record [] [
    ("lastCompile", .nullable .text),
    ("commodoreBuildInfo", .nullable BuildInfo.schema),
    ("global", .nullable VersionInfo.schema),
    ("tenant", .nullable VersionInfo.schema),
    ("instances", .dict InstanceInfo.schema),
    ("packages", .dict VersionInfo.schema)]).described "Metadata of the last catalog compilation"

/-- Observed states of clusters. -/
def ClusterStatus.schema : Schema :=
  (Schema.record [] [
    ("bootstrapToken", .nullable BootstrapToken.schema),
    ("facts", .described (.dict .text)
      "Dynamic facts; each value is a JSON document encoded as a string"),
    ("compileMeta", .nullable CompileMeta.schema)]).described "Cluster observed state"

/-- The schema of a kind: a titled object with a desired state and perhaps an observed one. -/
def kindSchema (kind : String) (spec : Schema) (status : Option Schema) : Schema :=
  (Schema.titled (.record ["spec"]
    (("spec", spec) :: (status.map (fun s => ("status", Schema.nullable s))).toList))
    kind).described ("Auto-generated derived type for " ++ kind ++ "Spec via `CustomResource`")

/-! ### The stored kinds -/

/-- The definition of tenants. -/
def Tenant.definition : Definition where
  kind := "Tenant"
  singular := "tenant"
  plural := "tenants"
  columns := [("Display Name", ".spec.displayName")]
  hasStatus := false
  schema := kindSchema "Tenant" TenantSpec.schema none

/-- The definition of clusters. -/
def Cluster.definition : Definition where
  kind := "Cluster"
  singular := "cluster"
  plural := "clusters"
  columns := [("Display Name", ".spec.displayName"), ("Tenant", ".spec.tenantRef.name")]
  hasStatus := true
  schema := kindSchema "Cluster" ClusterSpec.schema (some ClusterStatus.schema)

/-- The definition of a kind. -/
def definition? (kind : String) : Option Definition :=
  [Tenant.definition, Cluster.definition].find? (fun d => d.kind == kind)

end Fleet.Resource

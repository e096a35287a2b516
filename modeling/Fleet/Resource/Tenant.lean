import Fleet.Resource.Metadata
import Fleet.Resource.Repo

/-! # Stored tenants -/

namespace Fleet.Resource

open Json

/-- The group and version of the kinds of object stored here. -/
def apiVersion : String := "syn.tools/v1alpha1"

/-- Writes an object of a kind with its group and version, whatever was read. -/
def stamped {ρ : Type} (kind : String) (l : Layout ρ) : Codec ρ where
  decode := l.decode
  encode r :=
    match l.encode r with
    | .object members =>
      .ofMembers (members ++ [("apiVersion", .string apiVersion), ("kind", .string kind)])
    | v => v

/-- The desired state of a tenant. -/
structure TenantSpec where
  displayName : String := ""
  gitRepoUrl : String := ""
  gitRepoRevision : String := ""
  globalGitRepoUrl : String := ""
  globalGitRepoRevision : String := ""
  gitRepoTemplate : Option RepoTemplate := none
  deriving DecidableEq

/-- Desired states as objects. -/
def TenantSpec.layout : Layout TenantSpec where
  name := "TenantSpec"
  blank := {}
  fields := [
    .textOrEmpty "displayName" (·.displayName) (fun v r => { r with displayName := v }),
    .textOrEmpty "gitRepoURL" (·.gitRepoUrl) (fun v r => { r with gitRepoUrl := v }),
    .textOrEmpty "gitRepoRevision" (·.gitRepoRevision)
      (fun v r => { r with gitRepoRevision := v }),
    .textOrEmpty "globalGitRepoURL" (·.globalGitRepoUrl)
      (fun v r => { r with globalGitRepoUrl := v }),
    .textOrEmpty "globalGitRepoRevision" (·.globalGitRepoRevision)
      (fun v r => { r with globalGitRepoRevision := v }),
    .optional "gitRepoTemplate" RepoTemplate.layout.codec (·.gitRepoTemplate)
      (fun v r => { r with gitRepoTemplate := v })]

/-- A stored tenant. -/
structure Tenant where
  metadata : Metadata := {}
  spec : TenantSpec := {}
  deriving DecidableEq

namespace Tenant

/-- Tenants as objects. -/
def layout : Layout Tenant where
  name := "Tenant"
  blank := {}
  fields := [
    .required "metadata" Metadata.codec (·.metadata) (fun v r => { r with metadata := v }),
    .required "spec" TenantSpec.layout.codec (·.spec) (fun v r => { r with spec := v })]

/-- Tenants in both directions. -/
def codec : Codec Tenant := stamped "Tenant" layout

/-- What the tenant is called. -/
def name (t : Tenant) : String := t.metadata.nameAny

end Tenant
end Fleet.Resource

import Fleet.Fact
import Fleet.Record.Repo

/-! # Public tenants

A tenant as clients see it: its id, and the properties that a client may set. -/

namespace Fleet.Record

open Json

/-- What a client may set of a tenant. -/
structure TenantProperties where
  displayName : Option String := none
  annotations : Option Facts := none
  gitRepo : Option RevisionedGitRepo := none
  globalGitRepoUrl : Option String := none
  globalGitRepoRevision : Option String := none
  deriving DecidableEq

/-- Properties as objects. -/
def TenantProperties.layout : Layout TenantProperties where
  name := "TenantProperties"
  blank := {}
  fields := [
    .optional "displayName" .text (·.displayName) (fun v r => { r with displayName := v }),
    .optional "annotations" Facts.codec (·.annotations) (fun v r => { r with annotations := v }),
    .optional "gitRepo" RevisionedGitRepo.layout.codec (·.gitRepo)
      (fun v r => { r with gitRepo := v }),
    .optional "globalGitRepoURL" .text (·.globalGitRepoUrl)
      (fun v r => { r with globalGitRepoUrl := v }),
    .optional "globalGitRepoRevision" .text (·.globalGitRepoRevision)
      (fun v r => { r with globalGitRepoRevision := v })]

/-- A tenant. -/
structure Tenant where
  /-- The id; empty where one is still to be given. -/
  id : String := ""
  properties : TenantProperties := {}
  deriving DecidableEq

/-- Tenants as objects; id and properties stand side by side. -/
def Tenant.layout : Layout Tenant where
  name := "Tenant"
  blank := {}
  fields := []
  parts := [
    [.defaulted "id" .text (·.id) (fun v r => { r with id := v })],
    TenantProperties.layout.fields.map
      (·.within Tenant.properties (fun v r => { r with properties := v }))]

end Fleet.Record

import Fleet.Exchange.Repo
import Fleet.Record.Tenant
import Fleet.Resource.Tenant

/-! # Tenants between records and stored objects

`Tenant.toRecord` is what clients see of a stored tenant, `Tenant.take` takes over the properties
that a client gives and leaves the others as they are, and `Tenant.ofRecord` makes a new one. -/

namespace Fleet.Exchange.Tenant

open Record

/-- What clients see of a stored tenant. -/
def toRecord (t : Resource.Tenant) : Record.Tenant where
  id := t.name
  properties := {
    displayName := nonEmpty t.spec.displayName
    annotations := t.metadata.annotations.bind Facts.ofTexts
    gitRepo := RevisionedGitRepo.nonEmpty {
      repo := {
        url := nonEmpty t.spec.gitRepoUrl
        repoType := t.spec.gitRepoTemplate.map (·.repoType)
        deployKey := deployKey? t.spec.gitRepoTemplate }
      revision := nonEmpty t.spec.gitRepoRevision }
    globalGitRepoUrl := nonEmpty t.spec.globalGitRepoUrl
    globalGitRepoRevision := nonEmpty t.spec.globalGitRepoRevision }

/-- Sets a part of the desired state. -/
def setSpec {α : Type} (set : α → Resource.TenantSpec → Resource.TenantSpec) (a : α)
    (t : Resource.Tenant) : Resource.Tenant := { t with spec := set a t.spec }

/-- Takes over the repository that a client names. -/
def takeRepo (name : String) (r : RevisionedGitRepo) : Change Resource.Tenant Unit := do
  Exchange.take r.repo.url (setSpec (fun v s => { s with gitRepoUrl := v }))
  Exchange.take r.revision (setSpec (fun v s => { s with gitRepoRevision := v }))
  takeTemplate r.repo (·.spec.gitRepoUrl) name (·.spec.gitRepoTemplate)
    (setSpec (fun v s => { s with gitRepoTemplate := v }))

/-- Takes over the properties that a client gives. -/
def take (p : TenantProperties) : Change Resource.Tenant Unit := do
  let name := (← get).name
  Exchange.take p.displayName (setSpec (fun v s => { s with displayName := v }))
  Exchange.take p.annotations (fun facts t =>
    { t with metadata.annotations := mergeTexts t.metadata.annotations facts })
  match p.gitRepo with
  | some repo => takeRepo name repo
  | none => pure ()
  Exchange.take p.globalGitRepoUrl (setSpec (fun v s => { s with globalGitRepoUrl := v }))
  Exchange.take p.globalGitRepoRevision
    (setSpec (fun v s => { s with globalGitRepoRevision := v }))

/-- A new tenant with a given id. -/
def ofProperties (id : String) (p : TenantProperties) : Except ChangeError Resource.Tenant :=
  if Ident.isValid id then (take p).result { metadata := { name := some id } }
  else .error (.invalidId id)

/-- A new tenant; its id is drawn if the record has none. -/
def ofRecord (t : Record.Tenant) : Draw (Except ChangeError Resource.Tenant) := do
  match ← Ident.normalize t.id Ident.tenantStart with
  | .ok id => return ofProperties id t.properties
  | .error e => return .error (.exhausted e)

/-- What new tenants get where the client gives nothing. -/
structure Defaults where
  /-- The secret with credentials for the git host. -/
  apiSecretRefName : Option String := none
  /-- The path of repositories without a URL. -/
  repoPath : Option String := none
  deriving DecidableEq, Repr

/-- Completes a new tenant.  It needs a repository URL, or a path for a repository of its own. -/
def complete (d : Defaults) : Change Resource.Tenant Unit := do
  let t ← get
  if t.spec.gitRepoUrl.isEmpty then
    match d.repoPath, t.spec.gitRepoTemplate with
    | some path, none =>
      let template := { Resource.RepoTemplate.managed path t.name with displayName := t.name }
      modify (setSpec (fun v s => { s with gitRepoTemplate := v }) (some template))
    | _, _ => throw .missingRepoUrl
  match d.apiSecretRefName with
  | none => return
  | some secret =>
    modify (fun t => { t with
      spec.gitRepoTemplate := t.spec.gitRepoTemplate.map (fun r =>
        if r.isManaged then { r with apiSecretRef.name := secret } else r) })

end Fleet.Exchange.Tenant

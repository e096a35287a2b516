import Fleet.Exchange.Repo
import Fleet.Record.Cluster
import Fleet.Resource.Cluster

/-! # Clusters between records and stored objects

`Cluster.toRecord` is what clients see of a stored cluster, `Cluster.take` takes over the properties
that a client gives and leaves the others as they are, and `Cluster.ofRecord` makes a new one.

Facts and annotations are merged name by name and keep texts only.  Dynamic facts and compile
metadata are replaced as a whole. -/

namespace Fleet.Exchange.Cluster

open Record Json

/-- The stored form of a compile report; what has no place in it is dropped. -/
def compileMeta (report : CompileReport) : Except ChangeError Resource.CompileMeta :=
  (decodeValue Resource.CompileMeta.layout.decode (CompileReport.layout.encode report)).mapError
    .invalidCompileMeta

/-- The report that stored compile metadata amount to. -/
def compileReport (m : Resource.CompileMeta) : Except ChangeError CompileReport :=
  (decodeValue CompileReport.layout.decode (Resource.CompileMeta.layout.encode m)).mapError
    (.unreadable "compile metadata")

/-- Dynamic facts as stored. -/
def encodeFacts (facts : Facts) : Dict String := facts.map Fact.encode

/-- Stored dynamic facts; none at all if there are none. -/
def decodeFacts (d : Dict String) : Option Facts :=
  if d.isEmpty then none else some (d.map Fact.decode)

/-- What clients see of a stored cluster. -/
def toRecord (c : Resource.Cluster) : Except ChangeError Record.Cluster := do
  let report ← (c.status.bind (·.compileMeta)).mapM compileReport
  return {
    id := c.name
    tenant := c.spec.tenantRef.name
    properties := {
      displayName := nonEmpty c.spec.displayName
      annotations := c.metadata.annotations.bind Facts.ofTexts
      facts := Facts.ofTexts c.spec.facts
      dynamicFacts := c.status.bind (fun s => decodeFacts s.facts)
      gitRepo := GitRepo.nonEmpty {
        url := nonEmpty c.spec.gitRepoUrl
        hostKeys := nonEmpty c.spec.gitHostKeys
        repoType := c.spec.gitRepoTemplate.map (·.repoType)
        deployKey := deployKey? c.spec.gitRepoTemplate }
      globalGitRepoRevision := nonEmpty c.spec.globalGitRepoRevision
      tenantGitRepoRevision := nonEmpty c.spec.tenantGitRepoRevision
      compileMeta := report } }

/-- Sets a part of the desired state. -/
def setSpec {α : Type} (set : α → Resource.ClusterSpec → Resource.ClusterSpec) (a : α)
    (c : Resource.Cluster) : Resource.Cluster := { c with spec := set a c.spec }

/-- Sets a part of the observed state, which begins with the first thing observed. -/
def setStatus {α : Type} (set : α → Resource.ClusterStatus → Resource.ClusterStatus) (a : α)
    (c : Resource.Cluster) : Resource.Cluster :=
  { c with status := some (set a (c.status.getD {})) }

/-- Takes over the repository that a client names. -/
def takeRepo (name : String) (r : GitRepo) : Change Resource.Cluster Unit := do
  Exchange.take r.url (setSpec (fun v s => { s with gitRepoUrl := v }))
  Exchange.take r.hostKeys (setSpec (fun v s => { s with gitHostKeys := v }))
  takeTemplate r (·.spec.gitRepoUrl) name (·.spec.gitRepoTemplate)
    (setSpec (fun v s => { s with gitRepoTemplate := v }))

/-- Takes over the properties that a client gives. -/
def take (p : ClusterProperties) : Change Resource.Cluster Unit := do
  let name := (← get).name
  Exchange.take p.displayName (setSpec (fun v s => { s with displayName := v }))
  Exchange.take p.annotations (fun facts c =>
    { c with metadata.annotations := mergeTexts c.metadata.annotations facts })
  Exchange.take p.facts (setSpec (fun facts s => { s with facts := s.facts.overlay facts.texts }))
  match p.gitRepo with
  | some repo => takeRepo name repo
  | none => pure ()
  Exchange.take p.globalGitRepoRevision
    (setSpec (fun v s => { s with globalGitRepoRevision := v }))
  Exchange.take p.tenantGitRepoRevision
    (setSpec (fun v s => { s with tenantGitRepoRevision := v }))
  Exchange.take p.dynamicFacts (setStatus (fun v s => { s with facts := encodeFacts v }))
  match p.compileMeta with
  | some report =>
    let m ← (compileMeta report : Except ChangeError Resource.CompileMeta)
    modify (setStatus (fun v s => { s with compileMeta := some v }) m)
  | none => pure ()

/-- A new cluster with a given id, labelled with its tenant. -/
def ofProperties (id tenant : String) (p : ClusterProperties) :
    Except ChangeError Resource.Cluster :=
  if Ident.isValid id then
    (take p).result {
      metadata := Resource.Metadata.setLabel { name := some id } Resource.Cluster.tenantLabel tenant
      spec := { tenantRef := ⟨tenant⟩ } }
  else .error (.invalidId id)

/-- A new cluster; its id is drawn if the record has none. -/
def ofRecord (c : Record.Cluster) : Draw (Except ChangeError Resource.Cluster) := do
  match ← Ident.normalize c.id Ident.clusterStart with
  | .ok id => return ofProperties id c.tenant c.properties
  | .error e => return .error (.exhausted e)

/-- The fact that names the instance a cluster was registered with. -/
def instanceFact : String := "lieutenant-instance"

/-- Notes the instance that a cluster was registered with, whatever the client said. -/
def stampInstance (name : String) (c : Resource.Cluster) : Resource.Cluster :=
  { c with spec.facts := c.spec.facts.insert instanceFact name }

end Fleet.Exchange.Cluster

import Fleet.Service.Body
import Fleet.Service.Tenants

/-! # Requests for clusters

Each request as a task on the store, from what it says to what it answers.  The store writes the
desired and the observed state of a cluster separately, so a request that changes both writes twice;
the second write is based on the revision that the first one gave. -/

namespace Fleet.Service

open Exchange

namespace Clusters

/-- What a request for a cluster depends on. -/
structure Context where
  config : Config
  /-- Where the caller reached the service. -/
  base : String
  now : Instant
  words : Words

/-- A cluster as the caller sees it; while its bootstrap token may be used, with the URL to fetch its
manifests from. -/
def show? (base : String) (now : Instant) (c : Resource.Cluster) :
    Except ChangeError Record.Cluster := do
  let r ← Cluster.toRecord c
  let token := c.bootstrapToken?.filter (fun t => t.usableAt now)
  return { r with properties.installUrl := token.map (fun t => installUrl base t.token) }

/-- A cluster as the caller sees it. -/
def render (x : Context) (c : Resource.Cluster) : Task Record.Cluster :=
  Task.of .change (show? x.base x.now c)

/-- The clusters of a query. -/
def list (x : Context) (client : Client) (q : ListQuery) : Task (List Record.Cluster) := do
  let clusters : List Resource.Cluster ←
    Task.ask client (.listClusters (q.tenant.filter (fun t => !t.isEmpty)))
  let records ← Task.of .change (clusters.mapM (show? x.base x.now))
  return Record.sortClusters (q.sortBy.getD .id) records

/-- A cluster. -/
def get (x : Context) (client : Client) (id : String) : Task Record.Cluster := do
  let cluster : Resource.Cluster ← Task.ask client (.getCluster id)
  render x cluster

/-- Writes an observed state of a cluster just written, unless it is the one stored. -/
def writeStatus (client : Client) (written : Resource.Cluster)
    (status : Option Resource.ClusterStatus) : Task Resource.Cluster :=
  if status.isNone ∨ written.status = status then return written
  else Task.ask client (.updateClusterStatus { written with status := status })

/-- The new cluster that a record asks for. -/
def prepare (x : Context) (c : Record.Cluster) : Except Refusal Resource.Cluster :=
  if c.tenant.isEmpty then .error (.badRequest "tenant is required")
  else (drawn x.words (Cluster.ofRecord c)).mapError .change

/-- Stores a new cluster, noting the instance that it is registered with. -/
def store (x : Context) (client : Client) (c : Resource.Cluster) : Task Resource.Cluster := do
  let c := Cluster.stampInstance x.config.instanceName { c with metadata.ns := some x.config.ns }
  let created : Resource.Cluster ← Task.ask client (.createCluster { c with status := none })
  writeStatus client created c.status

/-- Creates a cluster. -/
def create (x : Context) (client : Client) (c : Record.Cluster) : Task Record.Cluster := do
  let cluster ← (prepare x c : Except Refusal Resource.Cluster)
  let created ← store x client cluster
  render x created

/-- Sets the given properties of a cluster. -/
def update (x : Context) (client : Client) (id : String) (p : Record.ClusterProperties) :
    Task Record.Cluster := do
  let cluster : Resource.Cluster ← Task.ask client (.getCluster id)
  let cluster ← Task.of .change ((Cluster.take p).result cluster)
  let updated : Resource.Cluster ← Task.ask client (.updateCluster cluster)
  let updated ← writeStatus client updated cluster.status
  render x updated

/-- A stored cluster with the desired state and the annotations of another one. -/
def replaceBy (found given : Resource.Cluster) : Resource.Cluster :=
  let metadata := { found.metadata with annotations := given.metadata.annotations }
  { found with
    spec := given.spec
    metadata := metadata.setLabel Resource.Cluster.tenantLabel given.spec.tenantRef.name }

/-- Creates a cluster under an id, or replaces all but the observed state of the one that has it.
Also tells whether it was created. -/
def put (x : Context) (client : Client) (id : String) (c : Record.Cluster) :
    Task (Bool × Record.Cluster) := do
  let cluster ← (prepare x { c with id := id } : Except Refusal Resource.Cluster)
  let found : Except StoreError Resource.Cluster ← Work.call client (.getCluster cluster.name)
  match found with
  | .ok found =>
    let updated : Resource.Cluster ← Task.ask client (.updateCluster (replaceBy found cluster))
    return (false, ← render x updated)
  | .error e =>
    if e.isNotFound then
      let created ← store x client cluster
      return (true, ← render x created)
    else throw (.store e)

/-- Deletes a cluster. -/
def delete (client : Client) (id : String) : Task Unit := Task.ask client (.deleteCluster id)

/-- Replaces the compile metadata of a cluster; after a conflict the cluster is read again. -/
def writeCompileMeta (client : Client) (id : String) (m : Resource.CompileMeta) :
    Work (Except StoreError Resource.Cluster) :=
  Store.retryOnce (fun _ => do
    let r : Except StoreError Resource.Cluster ← Work.call client (.getCluster id)
    match r with
    | .error e => return .error e
    | .ok c =>
      Work.call client (.updateClusterStatus
        (Cluster.setStatus (fun v s => { s with compileMeta := some v }) m c)))

/-- Takes over the report of a compilation. -/
def reportCompilation (client : Client) (id : String) (report : Record.CompileReport) :
    Task Unit := do
  let m ← Task.of .change (Cluster.compileMeta report)
  let r ← (writeCompileMeta client id m : Work (Except StoreError Resource.Cluster))
  let _ ← Task.of .store r

end Clusters
end Fleet.Service

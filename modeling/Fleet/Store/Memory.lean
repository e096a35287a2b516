import Fleet.Store.Call

/-! # The store in memory

Names are unique for each kind.  Every write gives the object a new revision, one more than the
last one given out; a write that carries another revision than the stored one conflicts, and one
that carries none does not. -/

namespace Fleet.Store

open Resource

/-- A store that keeps everything in memory. -/
structure Memory where
  /-- The namespace of all objects. -/
  ns : String
  tenants : Dict Tenant := .empty
  clusters : Dict Cluster := .empty
  secrets : List Secret := []
  /-- The last revision given out. -/
  revision : Nat := 0
  /-- How many of the next writes of observed states are to conflict. -/
  conflicts : Nat := 0
  deriving DecidableEq

namespace Memory

/-- The metadata of an object as written next. -/
def stamp (m : Memory) (d : Metadata) : Metadata :=
  { d with ns := some m.ns, revision := some (toString (m.revision + 1)) }

/-- Whether a write based on `incoming` may replace `stored`. -/
def isCurrent (stored incoming : Metadata) : Bool :=
  incoming.revision.isNone || incoming.revision == stored.revision

/-- Writes a tenant under its name. -/
def writeTenant (m : Memory) (t : Tenant) : Tenant × Memory :=
  let written := { t with metadata := m.stamp t.metadata }
  (written, { m with
    tenants := m.tenants.insert t.name written, revision := m.revision + 1 })

/-- Writes a cluster under its name. -/
def writeCluster (m : Memory) (c : Cluster) : Cluster × Memory :=
  let written := { c with metadata := m.stamp c.metadata }
  (written, { m with
    clusters := m.clusters.insert c.name written, revision := m.revision + 1 })

/-- Adds a secret behind the others. -/
def insertSecret (m : Memory) (s : Secret) : Memory :=
  { m with secrets := m.secrets ++ [{ s with metadata.ns := some m.ns }] }

/-- Gives a cluster a new revision, as another writer would. -/
def touchCluster (m : Memory) (name : String) : Memory :=
  let revision := some (toString (m.revision + 1))
  { m with
    revision := m.revision + 1
    clusters :=
      match m.clusters.get? name with
      | some c => m.clusters.insert name { c with metadata.revision := revision }
      | none => m.clusters }

/-- The result of a write. -/
def written {α : Type} (r : α × Memory) : Except StoreError α × Memory := (.ok r.1, r.2)

/-- Creates a tenant. -/
def createTenant (m : Memory) (t : Tenant) : Except StoreError Tenant × Memory :=
  if m.tenants.contains t.name then (.error (.taken tenantKind t.name), m)
  else written (m.writeTenant t)

/-- Replaces a tenant. -/
def updateTenant (m : Memory) (t : Tenant) : Except StoreError Tenant × Memory :=
  match m.tenants.get? t.name with
  | none => (.error (.noObject tenantKind t.name), m)
  | some stored =>
    if isCurrent stored.metadata t.metadata then written (m.writeTenant t)
    else (.error (.modified tenantKind t.name), m)

/-- Creates a cluster, of which nothing is observed yet. -/
def createCluster (m : Memory) (c : Cluster) : Except StoreError Cluster × Memory :=
  if m.clusters.contains c.name then (.error (.taken clusterKind c.name), m)
  else written (m.writeCluster { c with status := none })

/-- Replaces a cluster except for its observed state. -/
def updateCluster (m : Memory) (c : Cluster) : Except StoreError Cluster × Memory :=
  match m.clusters.get? c.name with
  | none => (.error (.noObject clusterKind c.name), m)
  | some stored =>
    if isCurrent stored.metadata c.metadata then
      written (m.writeCluster { c with status := stored.status })
    else (.error (.modified clusterKind c.name), m)

/-- Replaces the observed state of a cluster and nothing else. -/
def updateClusterStatus (m : Memory) (c : Cluster) : Except StoreError Cluster × Memory :=
  if 0 < m.conflicts then
    (.error (.modified clusterKind c.name), { m with conflicts := m.conflicts - 1 })
  else
    match m.clusters.get? c.name with
    | none => (.error (.noObject clusterKind c.name), m)
    | some stored =>
      if isCurrent stored.metadata c.metadata then
        let updated := { stored with
          status := c.status
          metadata.revision := some (toString (m.revision + 1)) }
        (.ok updated, { m with
          clusters := m.clusters.insert c.name updated, revision := m.revision + 1 })
      else (.error (.modified clusterKind c.name), m)

/-- An object of a kind, if there is one under the name. -/
def found {α : Type} (kind name : String) : Option α → Except StoreError α
  | some a => .ok a
  | none => .error (.noObject kind name)

/-- The clusters, or those labelled with a tenant. -/
def clustersOf (m : Memory) (tenant : Option String) : List Cluster :=
  m.clusters.values.filter (fun c =>
    match tenant with
    | none => true
    | some t => c.metadata.labels.bind (·.get? Cluster.tenantLabel) == some t)

/-- Answers a call. -/
def answer (m : Memory) : (c : Call) → c.Answer × Memory
  | .listTenants => (.ok m.tenants.values, m)
  | .getTenant name => (found tenantKind name (m.tenants.get? name), m)
  | .createTenant t => m.createTenant t
  | .updateTenant t => m.updateTenant t
  | .deleteTenant name =>
    (found tenantKind name ((m.tenants.get? name).map (fun _ => ())),
      { m with tenants := m.tenants.erase name })
  | .listClusters tenant => (.ok (m.clustersOf tenant), m)
  | .getCluster name => (found clusterKind name (m.clusters.get? name), m)
  | .createCluster c => m.createCluster c
  | .updateCluster c => m.updateCluster c
  | .updateClusterStatus c => m.updateClusterStatus c
  | .deleteCluster name =>
    (found clusterKind name ((m.clusters.get? name).map (fun _ => ())),
      { m with clusters := m.clusters.erase name })
  | .listSecrets => (.ok m.secrets, m)

end Memory
end Fleet.Store

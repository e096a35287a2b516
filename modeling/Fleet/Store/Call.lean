import Fleet.Resource.Cluster
import Fleet.Resource.Secret

/-! # Calls to the store

The store holds tenants, clusters and secrets of one namespace.  A `Call` is one atomic operation
on it.  Writes of a cluster's desired state leave its observed state alone, which is written by a
call of its own; every write carries the revision that it is based on. -/

namespace Fleet

/-- Why a call failed. -/
inductive StoreError where
  | notFound (text : String)
  /-- The object was written since it was read. -/
  | conflict (text : String)
  | alreadyExists (text : String)
  /-- Any other status that the store answers. -/
  | status (code : Nat) (text : String)
  /-- The store could not be asked. -/
  | backend (text : String)
  deriving DecidableEq, Repr

namespace StoreError

/-- The wording of an error. -/
def message : StoreError → String
  | notFound t | conflict t | alreadyExists t | status _ t => t
  | backend t => "backend request failed: " ++ t

/-- Whether there is no such object. -/
def isNotFound : StoreError → Bool
  | notFound _ => true
  | _ => false

/-- Whether the object was written since it was read. -/
def isConflict : StoreError → Bool
  | conflict _ => true
  | _ => false

/-- The store could not be reached. -/
def unreachable (cause : String) : StoreError := .backend ("ServiceError: " ++ cause)

/-- There is no object of a kind under a name. -/
def noObject (kind name : String) : StoreError :=
  .notFound (kind ++ " \"" ++ name ++ "\" not found")

/-- An object of a kind was written since it was read. -/
def modified (kind name : String) : StoreError :=
  .conflict ("Operation cannot be fulfilled on " ++ kind ++ " \"" ++ name ++
    "\": the object has been modified; please apply your changes to the latest version " ++
    "and try again")

/-- There is an object of a kind under a name already. -/
def taken (kind name : String) : StoreError :=
  .alreadyExists (kind ++ " \"" ++ name ++ "\" already exists")

end StoreError

namespace Store

/-- One operation on the store. -/
inductive Call where
  | listTenants
  | getTenant (name : String)
  | createTenant (tenant : Resource.Tenant)
  | updateTenant (tenant : Resource.Tenant)
  | deleteTenant (name : String)
  /-- All clusters, or those labelled with a tenant. -/
  | listClusters (tenant : Option String)
  | getCluster (name : String)
  | createCluster (cluster : Resource.Cluster)
  | updateCluster (cluster : Resource.Cluster)
  | updateClusterStatus (cluster : Resource.Cluster)
  | deleteCluster (name : String)
  | listSecrets
  deriving DecidableEq

/-- What a call gives if it succeeds. -/
def Call.Result : Call → Type
  | listTenants => List Resource.Tenant
  | getTenant _ | createTenant _ | updateTenant _ => Resource.Tenant
  | listClusters _ => List Resource.Cluster
  | getCluster _ | createCluster _ | updateCluster _ | updateClusterStatus _ => Resource.Cluster
  | deleteTenant _ | deleteCluster _ => Unit
  | listSecrets => List Resource.Secret

/-- What a call answers. -/
abbrev Call.Answer (c : Call) : Type := Except StoreError c.Result

/-- The kinds of call. -/
inductive Method where
  | listTenants | getTenant | createTenant | updateTenant | deleteTenant
  | listClusters | getCluster | createCluster | updateCluster | updateClusterStatus
  | deleteCluster | listSecrets
  deriving DecidableEq, Repr

/-- The kind of a call. -/
def Call.method : Call → Method
  | listTenants => .listTenants
  | getTenant _ => .getTenant
  | createTenant _ => .createTenant
  | updateTenant _ => .updateTenant
  | deleteTenant _ => .deleteTenant
  | listClusters _ => .listClusters
  | getCluster _ => .getCluster
  | createCluster _ => .createCluster
  | updateCluster _ => .updateCluster
  | updateClusterStatus _ => .updateClusterStatus
  | deleteCluster _ => .deleteCluster
  | listSecrets => .listSecrets

/-- The kind that tenants are stored under. -/
def tenantKind : String := "tenants.syn.tools"

/-- The kind that clusters are stored under. -/
def clusterKind : String := "clusters.syn.tools"

/-- Attempts a write, and attempts it once more if the object was written since it was read. -/
def retryOnce {m : Type → Type} [Monad m] {α : Type} (attempt : Nat → m (Except StoreError α)) :
    m (Except StoreError α) := do
  match ← attempt 0 with
  | .ok a => return .ok a
  | .error e => if e.isConflict then attempt 1 else return .error e

end Store
end Fleet

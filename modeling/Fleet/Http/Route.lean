import Fleet.Text.Split

/-! # Routes

The paths that the service knows, the methods that each one allows, and what each of them does. -/

namespace Fleet.Http

/-- What a request asks for.  Identifiers are given as the path writes them. -/
inductive Operation where
  | health
  | metrics
  | install
  | listTenants
  | createTenant
  | getTenant (id : String)
  | updateTenant (id : String)
  | deleteTenant (id : String)
  | listClusters
  | createCluster
  | getCluster (id : String)
  | updateCluster (id : String)
  | putCluster (id : String)
  | deleteCluster (id : String)
  | reportCompilation (id : String)
  deriving DecidableEq, Repr

/-- A known path. -/
inductive Route where
  | health
  | metrics
  | install
  | tenants
  | tenant (id : String)
  | clusters
  | cluster (id : String)
  | compileMeta (id : String)
  deriving DecidableEq, Repr

namespace Route

/-- The route of a path; an identifier is one segment that is not empty. -/
def of? (path : String) : Option Route :=
  match (Text.splitOn (· == '/') path.toList).map String.ofList with
  | ["", "healthz"] => some .health
  | ["", "metrics"] => some .metrics
  | ["", "install", "steward.json"] => some .install
  | ["", "tenants"] => some .tenants
  | ["", "tenants", id] => if id.isEmpty then none else some (.tenant id)
  | ["", "clusters"] => some .clusters
  | ["", "clusters", id] => if id.isEmpty then none else some (.cluster id)
  | ["", "clusters", id, "compileMeta"] => if id.isEmpty then none else some (.compileMeta id)
  | _ => none

/-- The operations of a route by method. -/
def operations : Route → List (String × Operation)
  | health => [("GET", .health)]
  | metrics => [("GET", .metrics)]
  | install => [("GET", .install)]
  | tenants => [("GET", .listTenants), ("POST", .createTenant)]
  | tenant id =>
    [("GET", .getTenant id), ("PATCH", .updateTenant id), ("DELETE", .deleteTenant id)]
  | clusters => [("GET", .listClusters), ("POST", .createCluster)]
  | cluster id =>
    [("GET", .getCluster id), ("PATCH", .updateCluster id), ("PUT", .putCluster id),
      ("DELETE", .deleteCluster id)]
  | compileMeta id => [("POST", .reportCompilation id)]

/-- The operation of a method; `HEAD` is served like `GET`. -/
def operation? (r : Route) (method : String) : Option Operation :=
  let served := if method = "HEAD" then "GET" else method
  (r.operations.find? (fun o => o.1 == served)).map Prod.snd

/-- The methods that a route allows, `HEAD` after `GET`. -/
def allowed (r : Route) : String :=
  ",".intercalate (r.operations.flatMap (fun o => if o.1 = "GET" then ["GET", "HEAD"] else [o.1]))

end Route
end Fleet.Http

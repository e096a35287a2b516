import Fleet.Http.Route
import Fleet.Service.Clusters

/-! # The service

From a request to its response: who asks, for what, and what the answer looks like.  The caller is
identified first, also for paths that do not exist. -/

namespace Fleet.Service

open Http Record

/-- What a response depends on besides the request. -/
structure Setting where
  config : Config
  now : Instant
  words : Words

/-- The identifier that a path writes, if it is UTF-8. -/
def pathId? (raw : String) : Option String :=
  Text.decode? (Url.percentDecode (Text.encode raw))

/-- Continues with the identifier in the path. -/
def withId (raw : String) (f : String → Task Response) : Task Response :=
  match pathId? raw with
  | some id => f id
  | none => return .text 400 "Invalid URL: Invalid UTF-8 in `id`"

/-- The response to a request whose body is too long to be received. -/
def tooLong : Response := .text 413 "Failed to buffer the request body: length limit exceeded"

/-- Continues with the body, if it is received. -/
def withBody (r : Request) (f : List UInt8 → Task Response) : Task Response :=
  match receivedBody? r with
  | some body => f body
  | none => return tooLong

/-- A tenant as a response. -/
def tenantResponse (status : Nat) (t : Record.Tenant) : Response :=
  .json status (Record.Tenant.layout.encode t)

/-- A cluster as a response. -/
def clusterResponse (status : Nat) (c : Record.Cluster) : Response :=
  .json status (Record.Cluster.layout.encode c)

/-- Serves an operation that needs no caller. -/
def serveAnyone (s : Setting) (r : Request) : Operation → Task Response
  | .health => return .text 200 "ok"
  | .metrics => do
    let counters ← (Work.readCounters : Work Counters)
    return {
      status := 200
      contentType := some "text/plain; version=0.0.4; charset=utf-8"
      body := .text counters.text }
  | .install => do
    let client ← Task.of .client (← (Work.ownClient : Work (Except ClientError Client)))
    let request : Handshake.Request := ⟨presentedToken r.query, baseUrl r, s.config.image⟩
    let bundle ← Task.of .handshake
      (← (Handshake.run client request s.now : Work (Except Handshake.HandshakeError Json.Value)))
    return .json 200 bundle
  | _ => return .bare 500

/-- Serves an operation for the caller that a client acts for. -/
def serveCaller (s : Setting) (r : Request) (client : Client) (o : Operation) : Task Response :=
  let x : Clusters.Context := ⟨s.config, baseUrl r, s.now, s.words⟩
  match o with
  | .listTenants => do
    let tenants ← Tenants.list client
    return .json 200 (.array (tenants.map Record.Tenant.layout.encode))
  | .createTenant => withBody r (fun body => do
    let t ← (readBody Record.Tenant.layout.decode body : Except Refusal Record.Tenant)
    return tenantResponse 201 (← Tenants.create s.config s.words client t))
  | .getTenant raw => withId raw (fun id => return tenantResponse 200 (← Tenants.get client id))
  | .updateTenant raw => withId raw (fun id => withBody r (fun body => do
    let p ← (readStrict TenantProperties.layout body : Except Refusal TenantProperties)
    return tenantResponse 200 (← Tenants.update client id p)))
  | .deleteTenant raw => withId raw (fun id => do
    Tenants.delete client id
    return .bare 204)
  | .listClusters => do
    let q ← Task.of (fun e : QueryError => .badRequest e.message)
      (readListQuery {} (Url.readForm (r.query.getD "")))
    let clusters ← Clusters.list x client q
    return .json 200 (.array (clusters.map Record.Cluster.layout.encode))
  | .createCluster => withBody r (fun body => do
    let c ← (readBody Record.Cluster.layout.decode body : Except Refusal Record.Cluster)
    return clusterResponse 201 (← Clusters.create x client c))
  | .getCluster raw => withId raw (fun id => return clusterResponse 200 (← Clusters.get x client id))
  | .updateCluster raw => withId raw (fun id => withBody r (fun body => do
    let p ← (readStrict ClusterProperties.layout body : Except Refusal ClusterProperties)
    return clusterResponse 200 (← Clusters.update x client id p)))
  | .putCluster raw => withId raw (fun id => withBody r (fun body => do
    let c ← (readBody Record.Cluster.layout.decode body : Except Refusal Record.Cluster)
    let (isNew, c) ← Clusters.put x client id c
    return clusterResponse (if isNew then 201 else 200) c))
  | .deleteCluster raw => withId raw (fun id => do
    Clusters.delete client id
    return .bare 204)
  | .reportCompilation raw => withId raw (fun id => withBody r (fun body => do
    let report ← (readBody CompileReport.layout.decode body : Except Refusal CompileReport)
    Clusters.reportCompilation client id report
    return .bare 204))
  | o => serveAnyone s r o

/-- Serves a request, for a caller if one was identified. -/
def serve (s : Setting) (r : Request) (route : Option Route) (client : Option Client) :
    Task Response :=
  match route with
  | none => return .bare 404
  | some route =>
    match route.operation? r.method, client with
    | none, _ => return .bare 405
    | some o, some client => serveCaller s r client o
    | some o, none => serveAnyone s r o

/-- Identifies the caller, where the path asks for one, and serves the request. -/
def authenticate (s : Setting) (r : Request) (route : Option Route) : Task Response :=
  match Credential.Access.of r.path with
  | .anyone | .bootstrapToken => serve s r route none
  | .caller => do
    let some token := Credential.bearerToken? (r.header? "authorization") | throw .missingCredential
    let client ← Task.of .client
      (← (Work.clientFor token : Work (Except ClientError Client)))
    serve s r route (some client)

/-- A response as it is sent: with the allowed methods if the one asked for is not, and without a body
if only the head was asked for. -/
def finish (r : Request) (route : Option Route) (response : Response) : Response :=
  let allow := route.bind (fun route =>
    if (route.operation? r.method).isNone then some route.allowed else none)
  { response with
    allow := allow
    body := if r.method = "HEAD" then .empty else response.body }

/-- Answers a request. -/
def respond (s : Setting) (r : Request) : Work Response := do
  let route := Route.of? r.path
  return finish r route (← (authenticate s r route).response)

end Fleet.Service

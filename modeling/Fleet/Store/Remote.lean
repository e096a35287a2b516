import Fleet.Store.Call
import Fleet.Url.Form

/-! # The store behind an API server

Every call is one request to an API server and the response to it.  `Remote.request` says what is
sent for a call and `Remote.result` what the reply to it means. -/

namespace Fleet.Store

open Json

namespace Remote

/-- What is sent. -/
structure Request where
  method : String
  /-- Path and query. -/
  target : String
  /-- The JSON value that goes with it. -/
  body : Option Value := none
  deriving DecidableEq

/-- The type of the content that is sent. -/
def Request.contentType (r : Request) : Option String := r.body.map (fun _ => "application/json")

/-- What comes back. -/
inductive Reply where
  | response (status : Nat) (body : String)
  /-- Nothing: the server cannot be reached. -/
  | broken (cause : String)
  deriving DecidableEq, Repr

/-! ### Requests -/

/-- The path of the tenants or clusters of a namespace. -/
def customPath (ns plural : String) : String :=
  "/apis/" ++ Resource.apiVersion ++ "/namespaces/" ++ ns ++ "/" ++ plural

/-- The path of the tenants. -/
def tenantsPath (ns : String) : String := customPath ns "tenants"

/-- The path of the clusters. -/
def clustersPath (ns : String) : String := customPath ns "clusters"

/-- The path of the secrets. -/
def secretsPath (ns : String) : String := "/api/v1/namespaces/" ++ ns ++ "/secrets"

/-- Whether a character may stand in the path of a target: controls of ASCII, the blank, angle
brackets and the backquote may not. -/
def isPathChar (c : Char) : Bool :=
  c.toNat > 0x20 && !(['\x7f', '<', '>', '\x60'].contains c)

/-- Whether a character may stand in the query of a target: controls of ASCII, the blank, angle
brackets and the double quote may not. -/
def isQueryChar (c : Char) : Bool :=
  c.toNat > 0x20 && !(['\x7f', '<', '>', '"'].contains c)

/-- Why a target cannot be sent. -/
inductive TargetError where
  | tooLong
  | invalidCharacter
  deriving DecidableEq, Repr

/-- The wording of a target error. -/
def TargetError.message : TargetError → String
  | .tooLong => "uri too long"
  | .invalidCharacter => "invalid uri character"

/-- The most bytes that a target may have. -/
def longestTarget : Nat := 65534

/-- A target as it is sent, without a fragment. -/
def target (s : String) : Except TargetError String :=
  let cs := s.toList.takeWhile (· ≠ '#')
  let path := cs.takeWhile (· ≠ '?')
  if longestTarget < s.utf8ByteSize then .error .tooLong
  else if path.all isPathChar && (cs.drop path.length).all isQueryChar then .ok (String.ofList cs)
  else .error .invalidCharacter

/-- The request for a path. -/
def send (method path : String) (body : Option Value := none) : Except StoreError Request :=
  match target path with
  | .ok t => .ok ⟨method, t, body⟩
  | .error e =>
    .error (.backend ("Failed to build request: failed to build request: " ++ e.message))

/-- The request for an object, which must have a name. -/
def sendTo (method path name rest : String) (body : Option Value := none) :
    Except StoreError Request :=
  if name.isEmpty then
    .error (.backend ("Failed to build request: failed to validate request: " ++
      "A non-empty name is required"))
  else send method (path ++ "/" ++ name ++ rest) body

/-- What is sent for a call. -/
def request (ns : String) : Call → Except StoreError Request
  | .listTenants => send "GET" (tenantsPath ns ++ "?")
  | .getTenant name => sendTo "GET" (tenantsPath ns) name ""
  | .createTenant t => send "POST" (tenantsPath ns ++ "?") (some (Resource.Tenant.codec.encode t))
  | .updateTenant t =>
    sendTo "PUT" (tenantsPath ns) t.name "?" (some (Resource.Tenant.codec.encode t))
  | .deleteTenant name => sendTo "DELETE" (tenantsPath ns) name "?" (some (.ofMembers []))
  | .listClusters none => send "GET" (clustersPath ns ++ "?")
  | .listClusters (some tenant) =>
    let selector := Resource.Cluster.tenantLabel ++ "=" ++ tenant
    send "GET" (clustersPath ns ++ "?&labelSelector=" ++ Url.writeFormText selector)
  | .getCluster name => sendTo "GET" (clustersPath ns) name ""
  | .createCluster c => send "POST" (clustersPath ns ++ "?") (some (Resource.Cluster.codec.encode c))
  | .updateCluster c =>
    sendTo "PUT" (clustersPath ns) c.name "?" (some (Resource.Cluster.codec.encode c))
  | .updateClusterStatus c =>
    sendTo "PUT" (clustersPath ns) c.name "/status?" (some (Resource.Cluster.codec.encode c))
  | .deleteCluster name => sendTo "DELETE" (clustersPath ns) name "?" (some (.ofMembers []))
  | .listSecrets => send "GET" (secretsPath ns ++ "?")

/-! ### Replies -/

/-- A whole number below a bound. -/
def bounded (name : String) (bound : Nat) : Codec Nat where
  decode
    | _, .number n => do
      match ← malformed n with
      | .integer i h =>
        if 0 ≤ i ∧ i < bound then .ok i.toNat
        else .error (.invalidValue (.number (.integer i h)) (.integer name))
      | .double d => .error (.invalidType (.number (.double d)) (.integer name))
    | _, d => mismatch (.integer name) d
  encode n := .ofInt n

/-- The error that a server tells. -/
structure ServerError where
  status : String := ""
  message : String := ""
  reason : String := ""
  code : Nat := 0
  deriving DecidableEq, Repr

/-- Errors of the server as objects. -/
def ServerError.layout : Layout ServerError where
  name := "ErrorResponse"
  blank := {}
  fields := [
    .required "status" .text (·.status) (fun v r => { r with status := v }),
    .defaulted "message" .text (·.message) (fun v r => { r with message := v }),
    .defaulted "reason" .text (·.reason) (fun v r => { r with reason := v }),
    .required "code" (bounded "u16" 65536) (·.code) (fun v r => { r with code := v })]

/-- The error that a response with a bad status tells; a body that is no error is shown. -/
def serverError (status : Nat) (body : String) : ServerError :=
  match decodeText ServerError.layout.decode (.ofString body) with
  | .ok e => e
  | .error _ => ⟨toString status, Text.quoted body, "Failed to parse error data", status⟩

/-- What an error of the server means. -/
def ServerError.toStoreError (e : ServerError) : StoreError :=
  if e.code = 404 then .notFound e.message
  else if e.code = 409 then
    if e.reason = "AlreadyExists" then .alreadyExists e.message else .conflict e.message
  else .status e.code e.message

/-- The body of a reply. -/
def readBody : Reply → Except StoreError String
  | .broken cause => .error (.unreachable cause)
  | .response status body =>
    if 400 ≤ status ∧ status < 600 then .error (serverError status body).toStoreError
    else .ok body

/-- Reads a value from a body. -/
def read {α : Type} (decode : Decoder α) (r : Reply) : Except StoreError α := do
  let body ← readBody r
  (decodeText decode (.ofString body)).mapError
    (fun e => .backend ("Error deserializing response: " ++ e.message))

/-- The metadata of a list. -/
structure ListMeta where
  continueAt : Option String := none
  remaining : Option Int := none
  revision : Option String := none
  selfLink : Option String := none
  deriving DecidableEq, Repr

/-- Metadata of lists as objects. -/
def ListMeta.layout : Layout ListMeta where
  name := "ListMeta"
  blank := {}
  loose := true
  fields := [
    .optional "continue" .text (·.continueAt) (fun v r => { r with continueAt := v }),
    .optional "remainingItemCount" Resource.int64 (·.remaining)
      (fun v r => { r with remaining := v }),
    .optional "resourceVersion" .text (·.revision) (fun v r => { r with revision := v }),
    .optional "selfLink" .text (·.selfLink) (fun v r => { r with selfLink := v })]

/-- Lists as objects, read for their items. -/
def listLayout {α : Type} (c : Codec α) : Layout (ListMeta × List α) where
  name := "ObjectList"
  blank := ({}, [])
  fields := [
    .defaulted "metadata" ListMeta.layout.codec Prod.fst (fun v r => (v, r.2)),
    { Json.Field.nullable "items" (.list c) [] (fun _ => false) Prod.snd (fun v r => (r.1, v)) with
      presence := .required }]
  parts := [[]]

/-- Reads a list. -/
def readList {α : Type} (c : Codec α) (r : Reply) : Except StoreError (List α) :=
  (read (listLayout c).decode r).map Prod.snd

/-- One cause of an outcome. -/
structure Cause where
  reason : String := ""
  message : String := ""
  field : String := ""
  deriving DecidableEq, Repr

/-- Causes as objects. -/
def Cause.layout : Layout Cause where
  name := "StatusCause"
  blank := {}
  fields := [
    .defaulted "reason" .text (·.reason) (fun v r => { r with reason := v }),
    .defaulted "message" .text (·.message) (fun v r => { r with message := v }),
    .defaulted "field" .text (·.field) (fun v r => { r with field := v })]

/-- What an outcome is about. -/
structure Details where
  name : String := ""
  group : String := ""
  kind : String := ""
  uid : String := ""
  causes : List Cause := []
  /-- Seconds to wait before the operation is attempted again. -/
  retryAfter : Nat := 0
  deriving DecidableEq, Repr

/-- Details as objects. -/
def Details.layout : Layout Details where
  name := "StatusDetails"
  blank := {}
  fields := [
    .defaulted "name" .text (·.name) (fun v r => { r with name := v }),
    .defaulted "group" .text (·.group) (fun v r => { r with group := v }),
    .defaulted "kind" .text (·.kind) (fun v r => { r with kind := v }),
    .defaulted "uid" .text (·.uid) (fun v r => { r with uid := v }),
    .defaulted "causes" (.list Cause.layout.codec) (·.causes) (fun v r => { r with causes := v }),
    .defaulted "retryAfterSeconds" (bounded "u32" 4294967296) (·.retryAfter)
      (fun v r => { r with retryAfter := v })]

/-- The outcome that a server tells of a deletion. -/
structure Outcome where
  hasSucceeded : Option Bool := none
  code : Nat := 0
  message : String := ""
  reason : String := ""
  details : Option Details := none
  deriving DecidableEq, Repr

/-- Outcomes as objects. -/
def Outcome.layout : Layout Outcome where
  name := "Status"
  blank := {}
  fields := [
    .optional "status" (.choice [("Success", true), ("Failure", false)]
      (fun b => if b then "Success" else "Failure")) (·.hasSucceeded)
      (fun v r => { r with hasSucceeded := v }),
    .defaulted "code" (bounded "u16" 65536) (·.code) (fun v r => { r with code := v }),
    .defaulted "message" .text (·.message) (fun v r => { r with message := v }),
    .defaulted "reason" .text (·.reason) (fun v r => { r with reason := v }),
    .optional "details" Details.layout.codec (·.details) (fun v r => { r with details := v })]

/-- Whether a value is the outcome of an operation. -/
def isOutcome : Value → Bool
  | .object members => Dict.lookupIn "kind" members == some (.string "Status")
  | _ => false

/-- Reads the reply to a deletion: an outcome, or the object as it is being deleted. -/
def readDeletion {α : Type} (c : Codec α) (r : Reply) : Except StoreError Unit := do
  if isOutcome (← read anyValue r) then
    let _ ← read Outcome.layout.decode r
  else
    let _ ← read c.decode r

/-- What the reply to a call means. -/
def result (r : Reply) : (c : Call) → c.Answer
  | .listTenants => readList Resource.Tenant.codec r
  | .getTenant _ | .createTenant _ | .updateTenant _ => read Resource.Tenant.codec.decode r
  | .deleteTenant _ => readDeletion Resource.Tenant.codec r
  | .listClusters _ => readList Resource.Cluster.codec r
  | .getCluster _ | .createCluster _ | .updateCluster _ | .updateClusterStatus _ =>
    read Resource.Cluster.codec.decode r
  | .deleteCluster _ => readDeletion Resource.Cluster.codec r
  | .listSecrets => readList Resource.Secret.codec r

/-- What a store behind a server looks like in a log. -/
def describe (ns : String) : String := "KubeStore \x7b namespace: " ++ Text.quoted ns ++ ", .. \x7d"

end Remote
end Fleet.Store

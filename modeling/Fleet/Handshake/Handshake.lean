import Fleet.Handshake.Account
import Fleet.Handshake.Bundle
import Fleet.Service.Action

/-! # The handshake

A new cluster asks for its manifests with the bootstrap token in its observed state.  The token is
found, checked, and marked as used; only then the manifests are given.  Marking is the commit: of
two handshakes with the same token the one whose write conflicts reads the cluster again, finds the
token used, and is refused. -/

namespace Fleet.Handshake

open Resource Service

/-- Why a handshake is refused. -/
inductive HandshakeError where
  | missingToken
  | invalidToken
  | tokenExpiredOrUsed
  | noAccountToken (cluster : String)
  | store (error : StoreError)
  deriving DecidableEq, Repr

namespace HandshakeError

/-- The wording of a refusal. -/
def message : HandshakeError → String
  | missingToken => "Missing or malformed token"
  | invalidToken => "Invalid token"
  | tokenExpiredOrUsed => "Token already used or expired"
  | noAccountToken cluster => "No service account token available for cluster " ++ cluster
  | store e => e.message

/-- What a refusal is counted as. -/
def outcome : HandshakeError → String
  | missingToken => "missing_token"
  | invalidToken => "invalid_token"
  | tokenExpiredOrUsed => "token_used_or_expired"
  | noAccountToken _ => "no_service_account_token"
  | store _ => "error"

end HandshakeError

/-- Steps of a handshake. -/
abbrev Steps := ExceptT HandshakeError Work

/-- Calls the store; a failed call ends the handshake. -/
def ask (client : Client) (c : Store.Call) : Steps c.Result := do
  let r ← (Work.call client c : Work c.Answer)
  (r.mapError HandshakeError.store : Except HandshakeError c.Result)

/-- The first cluster with a bootstrap token. -/
def withToken? (clusters : List Cluster) (token : String) : Option Cluster :=
  clusters.find? (fun c => c.bootstrapToken?.any (fun t => t.token == token))

/-- Finds the cluster with a bootstrap token. -/
def find (client : Client) (token : String) : Steps Cluster := do
  match withToken? (← ask client (.listClusters none)) token with
  | some c => return c
  | none => throw .invalidToken

/-- Whether the bootstrap token of a cluster may be used. -/
def check (c : Cluster) (now : Instant) : Except HandshakeError Unit :=
  if c.bootstrapToken?.any (fun t => t.usableAt now) then .ok () else .error .tokenExpiredOrUsed

/-- The cluster with its bootstrap token marked as used, if it holds `token` unused. -/
def spend? (c : Cluster) (token : String) : Option Cluster := do
  let status ← c.status
  let t ← status.bootstrapToken
  if t.token == token && t.valid then
    return { c with status := some { status with
      bootstrapToken := some { t with valid := false } } }
  else failure

/-- What became of a commit. -/
inductive Commit where
  | consumed
  /-- The token was used already. -/
  | alreadyConsumed
  deriving DecidableEq, Repr

/-- Marks the token of a cluster as used, if it is not. -/
def consume (client : Client) (c : Cluster) (token : String) : Work (Except StoreError Commit) := do
  match spend? c token with
  | none => return .ok .alreadyConsumed
  | some spent =>
    let r : Except StoreError Cluster ← Work.call client (.updateClusterStatus spent)
    return r.map (fun _ => .consumed)

/-- Marks the token of a cluster as used.  The first attempt is based on the cluster as it was
checked; after a conflict the cluster is read again. -/
def commit (client : Client) (c : Cluster) (token : String) : Work (Except StoreError Commit) :=
  Store.retryOnce (fun attempt => do
    if attempt = 0 then consume client c token
    else
      let r : Except StoreError Cluster ← Work.call client (.getCluster c.name)
      match r with
      | .ok c => consume client c token
      | .error e => return .error e)

/-- What a handshake asks for. -/
structure Request where
  token : Option String
  /-- Where the agent is to report to. -/
  apiUrl : String
  image : String
  deriving DecidableEq, Repr

/-- The steps of a handshake. -/
def steps (client : Client) (r : Request) (now : Instant) : Steps Json.Value := do
  let some token := r.token.filter (fun t => !t.isEmpty) | throw .missingToken
  let cluster ← find client token
  (check cluster now : Except HandshakeError Unit)
  let secrets ← ask client .listSecrets
  let some accountToken := accountToken? secrets cluster.name | throw (.noAccountToken cluster.name)
  match ← (commit client cluster token : Work (Except StoreError Commit)) with
  | .ok .consumed =>
    (Work.count (.handshake "served") : Work Unit)
    return bundle ⟨r.apiUrl, cluster.name, accountToken, r.image⟩
  | .ok .alreadyConsumed => throw .tokenExpiredOrUsed
  | .error e =>
    (Work.count .invalidationFailure : Work Unit)
    throw (.store e)

/-- Runs a handshake and counts how it ends. -/
def run (client : Client) (r : Request) (now : Instant) :
    Work (Except HandshakeError Json.Value) := do
  let result ← (steps client r now).run
  match result with
  | .error e => Work.count (.handshake e.outcome)
  | .ok _ => pure ()
  return result

end Fleet.Handshake

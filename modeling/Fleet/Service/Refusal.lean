import Fleet.Exchange.Change
import Fleet.Handshake.Handshake
import Fleet.Http.Message
import Fleet.Record.Reason

/-! # Refusals

Why a request is refused, and the response that says so. -/

namespace Fleet.Service

/-- Why a request is refused. -/
inductive Refusal where
  /-- Its body or query cannot be used. -/
  | badRequest (text : String)
  | missingCredential
  | client (error : ClientError)
  | change (error : Exchange.ChangeError)
  | store (error : StoreError)
  | handshake (error : Handshake.HandshakeError)
  deriving DecidableEq

/-- The status of a failed call: that of the store, if it is one. -/
def storeStatus : StoreError → Nat
  | .notFound _ => 404
  | .conflict _ | .alreadyExists _ => 409
  | .status code _ => if 100 ≤ code ∧ code < 1000 then code else 500
  | .backend _ => 500

namespace Refusal

/-- The wording of a refusal. -/
def message : Refusal → String
  | badRequest text => text
  | missingCredential => "missing or malformed jwt"
  | client e => e.message
  | change e => e.message
  | store e => e.message
  | handshake e => e.message

/-- The status of a refusal. -/
def status : Refusal → Nat
  | badRequest _ | missingCredential => 400
  | client _ => 500
  | change e => if e.isClientError then 400 else 500
  | store e => storeStatus e
  | handshake .missingToken => 400
  | handshake .invalidToken | handshake .tokenExpiredOrUsed => 401
  | handshake (.noAccountToken _) => 503
  | handshake (.store e) => storeStatus e

/-- The reason that a response gives; it holds no double quotes. -/
def reason (r : Refusal) : String := r.message.map (fun c => if c = '"' then '\'' else c)

/-- The response to a refused request. -/
def response (r : Refusal) : Http.Response :=
  .json r.status (Record.Reason.layout.encode ⟨r.reason⟩)

end Refusal

/-- Work that may end in a refusal. -/
abbrev Task := ExceptT Refusal Work

namespace Task

/-- Calls the store; a failed call is a refusal. -/
def ask (client : Client) (c : Store.Call) : Task c.Result := do
  let r ← (Work.call client c : Work c.Answer)
  (r.mapError Refusal.store : Except Refusal c.Result)

/-- A result, or the refusal that its error means. -/
def of {ε α : Type} (refusal : ε → Refusal) (r : Except ε α) : Task α :=
  (r.mapError refusal : Except Refusal α)

/-- The response at the end of a task. -/
def response (t : Task Http.Response) : Work Http.Response := do
  match ← t.run with
  | .ok r => return r
  | .error e => return e.response

end Task
end Fleet.Service

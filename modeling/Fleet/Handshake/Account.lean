import Fleet.Resource.Secret

/-! # The token of an account

The store keeps tokens of accounts in secrets of their own type.  A cluster's agent reports with
the token of the account that is called like the cluster. -/

namespace Fleet.Handshake

open Resource

/-- The type of the secrets that hold tokens of accounts. -/
def tokenSecretType : String := "kubernetes.io/service-account-token"

/-- The annotation that names the account. -/
def accountAnnotation : String := "kubernetes.io/service-account.name"

/-- The token in a secret, if it is one of the account. -/
def tokenIn? (s : Secret) (account : String) : Option String := do
  if s.type ≠ some tokenSecretType then failure
  if s.metadata.annotations.bind (·.get? accountAnnotation) ≠ some account then failure
  let token ← Text.decode? (← (← s.data).get? "token")
  if token.isEmpty then failure
  return token

/-- Whether the first of two secrets is older; one without a time of creation is older than any
with one. -/
def isOlder (a b : Metadata) : Bool :=
  match a.created, b.created with
  | _, none => false
  | none, some _ => true
  | some s, some t => s.before t

/-- The oldest of some tokens of secrets; of equally old ones the first. -/
def oldest : List (Metadata × String) → Option (Metadata × String)
  | [] => none
  | a :: rest =>
    match oldest rest with
    | none => some a
    | some b => if isOlder b.1 a.1 then some b else some a

/-- The token of an account: the one in its oldest secret that has one. -/
def accountToken? (secrets : List Secret) (account : String) : Option String :=
  (oldest (secrets.filterMap (fun s => (tokenIn? s account).map (s.metadata, ·)))).map Prod.snd

end Fleet.Handshake

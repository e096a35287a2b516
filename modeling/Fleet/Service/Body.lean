import Fleet.Credential.Access
import Fleet.Exchange.Cluster
import Fleet.Service.Refusal
import Fleet.Url.Form

/-! # What requests say

Reading the bodies, queries and headers of requests. -/

namespace Fleet.Service

open Json

/-- The most bytes of a body that are received. -/
def bodyLimit : Nat := 2097152

/-- The body of a request, unless it is too long to be received. -/
def receivedBody? (r : Http.Request) : Option (List UInt8) :=
  if r.body.length ≤ bodyLimit then some r.body else none

/-- Reads a body; an empty one says nothing. -/
def readBody {α : Type} (decode : Decoder α) (body : List UInt8) : Except Refusal α :=
  if body.isEmpty then .error (.badRequest "request body is empty")
  else (decodeText decode (.ofBytes body)).mapError (fun e => .badRequest e.message)

/-- Reads a body of a record, which must name no other fields. -/
def readStrict {ρ : Type} (l : Layout ρ) (body : List UInt8) : Except Refusal ρ := do
  let (record, unknown) ← readBody l.strict.decode body
  match unknown.keys with
  | [] => return record
  | field :: _ => throw (.badRequest ("unknown field `" ++ field ++ "`"))

/-- Where the caller reached the service: the scheme that a proxy tells and the host asked for. -/
def baseUrl (r : Http.Request) : String :=
  let scheme := (r.header? "x-forwarded-proto").bind (fun s =>
    let first := Text.trim (s.toList.takeWhile (· ≠ ','))
    if first.isEmpty then none else some (String.ofList first))
  scheme.getD "http" ++ "://" ++ (r.header? "host").getD "localhost"

/-- Where a cluster fetches its manifests with a bootstrap token. -/
def installUrl (base token : String) : String :=
  base ++ Credential.installPath ++ "?token=" ++ token

/-! ### Queries -/

/-- Why a query is no list query. -/
structure QueryError where
  /-- The parameter with the wrong value. -/
  parameter : Option String
  error : DecodeError
  deriving DecidableEq

/-- The wording of a query error. -/
def QueryError.message (e : QueryError) : String :=
  "Failed to deserialize query string: " ++
    (match e.parameter with
    | some p => p ++ ": "
    | none => "") ++ e.error.message

/-- Which clusters to list, and in which order. -/
structure ListQuery where
  tenant : Option String := none
  sortBy : Option Record.SortKey := none
  deriving DecidableEq, Repr

/-- Reads the parameters of a list query; others are passed over. -/
def readListQuery (q : ListQuery) : List (String × String) → Except QueryError ListQuery
  | [] => .ok q
  | (name, value) :: rest =>
    if name = "tenant" then
      if q.tenant.isSome then .error ⟨none, .duplicateField name⟩
      else readListQuery { q with tenant := some value } rest
    else if name = "sort_by" then
      if q.sortBy.isSome then .error ⟨none, .duplicateField name⟩
      else
        match variant Record.SortKey.all value with
        | .ok key => readListQuery { q with sortBy := some key } rest
        | .error e => .error ⟨some name, e⟩
    else readListQuery q rest

/-- The token that a query presents; none if it presents several. -/
def presentedToken (query : Option String) : Option String :=
  match (Url.readForm (query.getD "")).filter (fun p => p.1 == "token") with
  | [(_, token)] => some token
  | _ => none

end Fleet.Service

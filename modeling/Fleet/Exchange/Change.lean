import Fleet.Ident
import Fleet.Json.Decoder

/-! # Changes

Public records are taken over into stored objects step by step.  A `Change` runs such steps; if
one fails, what the steps before it did stays, and the caller decides whether to keep it. -/

namespace Fleet.Exchange

/-- A repository URL that names no repository. -/
structure InvalidRepoUrl where
  url : String
  reason : String
  deriving DecidableEq, Repr

/-- The wording of an invalid repository URL. -/
def InvalidRepoUrl.message (e : InvalidRepoUrl) : String :=
  "invalid repository URL '" ++ e.url ++ "': " ++ e.reason

/-- Why a record cannot be taken over. -/
inductive ChangeError where
  | invalidRepoUrl (error : InvalidRepoUrl)
  | malformedDeployKey
  | unmanagedRepoDeployKey
  | exhausted (error : Ident.Exhausted)
  | invalidId (id : String)
  | missingRepoUrl
  | invalidCompileMeta (error : Json.DecodeError)
  /-- A stored value has no public form. -/
  | unreadable (what : String) (error : Json.DecodeError)
  deriving DecidableEq

/-- The wording of an error. -/
def ChangeError.message : ChangeError → String
  | .invalidRepoUrl e => e.message
  | .malformedDeployKey => "Illegal deploy key format. Expected '<type> <public key>'"
  | .unmanagedRepoDeployKey => "Cannot set deploy key for unmanaged git repo"
  | .exhausted e => e.message
  | .invalidId id => Ident.invalidMessage id
  | .missingRepoUrl => "GitRepo URL is required"
  | .invalidCompileMeta e => "Invalid compile metadata: " ++ e.message
  | .unreadable what e => "failed to convert " ++ what ++ ": " ++ e.message

/-- Whether the client is to blame. -/
def ChangeError.isClientError : ChangeError → Bool
  | .exhausted _ | .unreadable _ _ => false
  | _ => true

/-- Steps that change an object of type `ρ`, and may fail half-way. -/
abbrev Change (ρ : Type) := ExceptT ChangeError (StateM ρ)

/-- The object after a change, and whether the change failed. -/
def Change.apply {ρ : Type} (c : Change ρ Unit) (r : ρ) : Except ChangeError Unit × ρ :=
  StateT.run (ExceptT.run c) r

/-- The object after a change that must not fail. -/
def Change.result {ρ : Type} (c : Change ρ Unit) (r : ρ) : Except ChangeError ρ :=
  let (outcome, r) := c.apply r
  outcome.map (fun _ => r)

/-- Takes a value over if there is one. -/
def take {ρ α : Type} (value : Option α) (set : α → ρ → ρ) : Change ρ Unit :=
  match value with
  | some a => modify (set a)
  | none => pure ()

end Fleet.Exchange

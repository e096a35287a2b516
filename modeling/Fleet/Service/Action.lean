import Fleet.Metrics
import Fleet.Program
import Fleet.Store.Call

/-! # What the service does to the world

Requests share a store, a cache of clients, a client of the service's own, and counters.  An
`Action` is one atomic step on them: between two actions of a request, actions of others may
happen. -/

namespace Fleet.Service

/-- A client of the store. -/
structure Client where
  /-- The bearer token that it acts with; the service itself if there is none. -/
  identity : Option String
  /-- How many clients were built before it. -/
  serial : Nat
  deriving DecidableEq, Repr

/-- A client could not be built. -/
structure ClientError where
  cause : String
  deriving DecidableEq, Repr

/-- The wording of a failed build. -/
def ClientError.message (e : ClientError) : String :=
  "failed to create kubernetes client: ServiceError: " ++ e.cause

/-- One atomic step. -/
inductive Action where
  /-- Calls the store as a client. -/
  | call (client : Client) (call : Store.Call)
  /-- Looks the client of a token up in the cache. -/
  | lookup (token : String)
  /-- Builds a client. -/
  | build (token : String)
  /-- Puts the client of a token into the cache. -/
  | remember (token : String) (client : Client)
  /-- Takes the service's own client, which is built when it is first needed. -/
  | ownClient
  /-- Counts an event. -/
  | count (event : Event)
  /-- Reads the counters. -/
  | readCounters
  deriving DecidableEq

/-- What an action answers. -/
def Action.Answer : Action → Type
  | call _ c => c.Answer
  | lookup _ => Option Client
  | build _ | ownClient => Except ClientError Client
  | remember _ _ | count _ => Unit
  | readCounters => Counters

/-- A program of the service. -/
abbrev Work := Program Action.Answer

namespace Work

/-- The program of a single action. -/
def perform (action : Action) : Work action.Answer := Program.perform action

/-- Calls the store. -/
def call (client : Client) (c : Store.Call) : Work c.Answer := perform (.call client c)

/-- Counts an event. -/
def count (event : Event) : Work Unit := perform (.count event)

/-- Reads the counters. -/
def readCounters : Work Counters := perform .readCounters

/-- The cached client of a token. -/
def lookup (token : String) : Work (Option Client) := perform (.lookup token)

/-- A new client for a token. -/
def build (token : String) : Work (Except ClientError Client) := perform (.build token)

/-- Puts the client of a token into the cache. -/
def remember (token : String) (client : Client) : Work Unit := perform (.remember token client)

/-- The service's own client. -/
def ownClient : Work (Except ClientError Client) := perform .ownClient

/-- The client of a token: the cached one, else a new one, which is cached. -/
def clientFor (token : String) : Work (Except ClientError Client) := do
  match ← lookup token with
  | some client => return .ok client
  | none =>
    match ← build token with
    | .error e => return .error e
    | .ok client =>
      remember token client
      return .ok client

end Work
end Fleet.Service

import Fleet.Credential.Cache
import Fleet.Service.Action
import Fleet.Store.Memory

/-! # The world of the service

The state that requests share, with a store in memory, and what every action does to it.

A `Disturbance` happens right before a call to the store: another writer is faster, or the call
fails without reaching the store. -/

namespace Fleet.Service

open Credential

/-- What requests share. -/
structure World where
  store : Store.Memory
  cache : Cache Client
  /-- The service's own client, once it is built. -/
  own : Option Client := none
  /-- The identities of all clients built, in the order in which they were built. -/
  built : List (Option String) := []
  counters : Counters := {}
  /-- Whether the next client cannot be built, and why. -/
  outage : Option ClientError := none
  deriving DecidableEq

namespace World

/-- A world with an empty store. -/
def empty (ns : String) (cacheSize : Nat) : World := { store := { ns }, cache := .ofCapacity cacheSize }

/-- Counts an event. -/
def count (w : World) (e : Event) : World := { w with counters := w.counters.count e }

/-- Builds a client. -/
def build (w : World) (identity : Option String) : Except ClientError Client × World :=
  match w.outage with
  | some e => (.error e, { w with outage := none })
  | none => (.ok ⟨identity, w.built.length⟩, { w with built := w.built ++ [identity] })

/-- Looks the client of a token up. -/
def lookup (w : World) (token : String) : Option Client × World :=
  let (found, cache) := w.cache.lookup token
  (found, { w with cache := cache }.count (if found.isSome then .cacheHit else .cacheMiss))

/-- Puts the client of a token into the cache. -/
def remember (w : World) (token : String) (client : Client) : World :=
  let (evicted, cache) := w.cache.insert token client
  let w := { w with cache := cache }
  if evicted then w.count .cacheEviction else w

/-- Takes the service's own client. -/
def ownClient (w : World) : Except ClientError Client × World :=
  match w.own with
  | some client => (.ok client, w)
  | none =>
    let (built, w) := w.build none
    (built, { w with own := built.toOption })

/-- Answers an action. -/
def answer (w : World) : (a : Action) → a.Answer × World
  | .call _ c =>
    let (x, store) := w.store.answer c
    (x, { w with store := store })
  | .lookup token => w.lookup token
  | .build token => w.build (some token)
  | .remember token client => ((), w.remember token client)
  | .ownClient => w.ownClient
  | .count e => ((), w.count e)
  | .readCounters => (w.counters, w)

/-- What the service looks like in a log. -/
def describe (w : World) : String :=
  "AuthResolver \x7b cache: " ++ w.cache.describe ++ ", service_client: " ++
    (if w.own.isSome then "true" else "false") ++ ", .. \x7d"

end World

/-- What happens right before a call to the store. -/
structure Disturbance where
  /-- The kind of call. -/
  before : Store.Method
  /-- A cluster that another writer writes as it is. -/
  touch : Option String := none
  /-- A cluster that another writer puts into the store. -/
  insert : Option Resource.Cluster := none
  /-- The error that the call fails with. -/
  failure : Option StoreError := none

/-- A world with disturbances to come. -/
structure Scene where
  world : World
  disturbances : List Disturbance := []

namespace Scene

/-- The first disturbance of a kind of call, and the others. -/
def takeDisturbance (method : Store.Method) :
    List Disturbance → Option Disturbance × List Disturbance
  | [] => (none, [])
  | d :: rest =>
    if d.before = method then (some d, rest)
    else
      let (found, others) := takeDisturbance method rest
      (found, d :: others)

/-- What a disturbance does to the store. -/
def disturb (m : Store.Memory) (d : Disturbance) : Store.Memory :=
  let m := d.touch.elim m m.touchCluster
  d.insert.elim m (fun c => (m.writeCluster c).2)

/-- Answers an action, which a disturbance may come before. -/
def answer (s : Scene) : (a : Action) → a.Answer × Scene
  | .call client c =>
    let (d, rest) := takeDisturbance c.method s.disturbances
    let store := d.elim s.world.store (disturb s.world.store)
    let world := { s.world with store := store }
    match d.bind (·.failure) with
    | some e => (.error e, { world := world, disturbances := rest })
    | none =>
      let (x, world) := world.answer (.call client c)
      (x, { world := world, disturbances := rest })
  | a =>
    let (x, world) := s.world.answer a
    (x, { s with world := world })

/-- Runs a program to its end. -/
def run {α : Type} (s : Scene) (p : Work α) : α × Scene :=
  (p.run (fun a => modifyGet (fun s : Scene => s.answer a))).run s

end Scene
end Fleet.Service

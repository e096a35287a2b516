import Fleet.Proofs.Credential.Cache
import Fleet.Service.World

/-! # Clients and whom they act as

A world remembers for whom each client was built, so a client tells its origin
(`World.Produced`).  In a world that is honest (`World.IsHonest`) the cache holds under a token
clients that were built for it, and the service's own client was built for the service, once.  No
action makes an honest world dishonest, as long as clients enter the cache under their own token
(`World.IsHonest.answer`). -/

namespace Fleet.Service

open Credential

namespace World

/-- The client was built in this world, for that identity. -/
def Produced (w : World) (client : Client) (identity : Option String) : Prop :=
  w.built[client.serial]? = some identity ∧ client.identity = identity

/-- Clients act as whom they were built for. -/
structure IsHonest (w : World) : Prop where
  /-- The cache is within its bounds. -/
  cache : w.cache.IsSound
  /-- What it holds for a token was built for that token. -/
  cached : ∀ e ∈ w.cache.entries, w.Produced e.2 (some e.1)
  /-- The service's own client was built for the service. -/
  own : ∀ client ∈ w.own, w.Produced client none
  /-- It is the only such client. -/
  once : w.built.count none = if w.own.isSome then 1 else 0

variable {w : World} {client : Client} {identity : Option String} {token : String}

theorem Produced.unique {identity' : Option String} (h : w.Produced client identity)
    (h' : w.Produced client identity') : identity = identity' := h.2.symm.trans h'.2

/-! ### What actions do to clients -/

/-- Clients that were built stay so. -/
theorem Produced.mono {w' : World} (h : w.Produced client identity)
    (hbuilt : w.built <+: w'.built) : w'.Produced client identity := by
  obtain ⟨later, hlater⟩ := hbuilt
  refine ⟨?_, h.2⟩
  rw [← hlater, List.getElem?_append_left (List.getElem?_eq_some_iff.1 h.1).1]
  exact h.1

/-- A build fails and changes no client, or gives a new client of the identity asked for. -/
theorem build_cases (w : World) (identity : Option String) :
    (∃ e, w.outage = some e ∧ w.build identity = (.error e, { w with outage := none })) ∨
      w.outage = none ∧ w.build identity =
        (.ok ⟨identity, w.built.length⟩, { w with built := w.built ++ [identity] }) := by
  unfold build
  cases w.outage with
  | some e => exact Or.inl ⟨e, rfl, rfl⟩
  | none => exact Or.inr ⟨rfl, rfl⟩

theorem produced_of_build (h : (w.build identity).1 = .ok client) :
    (w.build identity).2.Produced client identity := by
  rcases w.build_cases identity with ⟨e, -, hbuild⟩ | ⟨-, hbuild⟩ <;> rw [hbuild] at h ⊢
  · cases h
  · cases h
    exact ⟨List.getElem?_concat_length, rfl⟩

theorem built_remember (w : World) (token : String) (client : Client) :
    (w.remember token client).built = w.built := by
  unfold remember
  dsimp only
  split <;> rfl

theorem own_remember (w : World) (token : String) (client : Client) :
    (w.remember token client).own = w.own := by
  unfold remember
  dsimp only
  split <;> rfl

theorem cache_remember (w : World) (token : String) (client : Client) :
    (w.remember token client).cache = (w.cache.insert token client).2 := by
  unfold remember
  dsimp only
  split <;> rfl

theorem built_build (w : World) (identity : Option String) : w.built <+: (w.build identity).2.built := by
  rcases w.build_cases identity with ⟨e, -, hbuild⟩ | ⟨-, hbuild⟩ <;> rewrite [hbuild]
  · exact List.prefix_rfl
  · exact List.prefix_append _ _

theorem cache_build (w : World) (identity : Option String) : (w.build identity).2.cache = w.cache := by
  rcases w.build_cases identity with ⟨e, -, hbuild⟩ | ⟨-, hbuild⟩ <;> rw [hbuild]

/-- The service's own client is the one that it has, or one that is built now. -/
theorem ownClient_cases (w : World) : (∃ client, w.own = some client ∧ w.ownClient = (.ok client, w)) ∨
    w.own = none ∧
      w.ownClient = ((w.build none).1, { (w.build none).2 with own := (w.build none).1.toOption }) := by
  unfold ownClient
  cases w.own with
  | some client => exact Or.inl ⟨client, rfl, rfl⟩
  | none => exact Or.inr ⟨rfl, rfl⟩

theorem built_answer (w : World) (a : Action) : w.built <+: (w.answer a).2.built := by
  cases a with
  | build token => exact w.built_build (some token)
  | remember token client => exact (w.built_remember token client) ▸ List.prefix_rfl
  | ownClient =>
      change w.built <+: w.ownClient.2.built
      rcases w.ownClient_cases with ⟨client, -, hown⟩ | ⟨-, hown⟩ <;> rewrite [hown]
      · exact List.prefix_rfl
      · exact w.built_build none
  | call | lookup | count | readCounters => exact List.prefix_rfl

theorem cache_ownClient (w : World) : w.ownClient.2.cache = w.cache := by
  rcases w.ownClient_cases with ⟨client, -, hown⟩ | ⟨-, hown⟩ <;> rw [hown]
  exact w.cache_build none

/-- The cache is changed by what looks into it or puts something into it, and by nothing else. -/
theorem cache_answer_cases (w : World) (a : Action) : (w.answer a).2.cache = w.cache ∨
    (∃ token, (w.answer a).2.cache = (w.cache.lookup token).2) ∨
      ∃ token client, a = .remember token client ∧
        (w.answer a).2.cache = (w.cache.insert token client).2 := by
  cases a with
  | lookup token => exact Or.inr (Or.inl ⟨token, rfl⟩)
  | remember token client => exact Or.inr (Or.inr ⟨token, client, rfl, w.cache_remember token client⟩)
  | build token => exact Or.inl (w.cache_build (some token))
  | ownClient => exact Or.inl w.cache_ownClient
  | call | count | readCounters => exact Or.inl rfl

/-- The cache gains what a party puts into it, and nothing else. -/
theorem mem_cache_answer {a : Action} {e : String × Client}
    (h : e ∈ (w.answer a).2.cache.entries) : e ∈ w.cache.entries ∨ a = .remember e.1 e.2 := by
  rcases w.cache_answer_cases a with hsame | ⟨token, hlookup⟩ | ⟨token, client, rfl, hinsert⟩
  · exact Or.inl (hsame ▸ h)
  · rw [hlookup] at h
    exact Or.inl (Cache.mem_lookup h)
  · rw [hinsert] at h
    rcases Cache.mem_insert h with rfl | h
    · exact Or.inr rfl
    · exact Or.inl h

theorem capacity_answer (w : World) (a : Action) :
    (w.answer a).2.cache.capacity = w.cache.capacity := by
  rcases w.cache_answer_cases a with hsame | ⟨token, hlookup⟩ | ⟨token, client, -, hinsert⟩
  · rw [hsame]
  · rw [hlookup, Cache.capacity_lookup]
  · rw [hinsert, Cache.capacity_insert]

theorem isSound_answer (h : w.cache.IsSound) (a : Action) : (w.answer a).2.cache.IsSound := by
  rcases w.cache_answer_cases a with hsame | ⟨token, hlookup⟩ | ⟨token, client, -, hinsert⟩
  · exact hsame ▸ h
  · exact hlookup ▸ h.lookup token
  · exact hinsert ▸ h.insert token client

/-! ### Honest worlds -/

theorem isHonest_start (store : Store.Memory) (capacity : Nat) :
    IsHonest { store, cache := .ofCapacity capacity } where
  cache := Cache.isSound_ofCapacity capacity
  cached _ he := by cases he
  own _ h := by cases h
  once := rfl

/-- The service's own client is built when there is none, and only then. -/
theorem IsHonest.own_ownClient (h : w.IsHonest) :
    (∀ client ∈ w.ownClient.2.own, w.ownClient.2.Produced client none) ∧
      w.ownClient.2.built.count none = if w.ownClient.2.own.isSome then 1 else 0 := by
  rcases w.ownClient_cases with ⟨client, -, hown⟩ | ⟨hnone, hown⟩
  · rw [hown]
    exact ⟨h.own, h.once⟩
  have hcount : w.built.count none = 0 := by
    rw [h.once, hnone]
    rfl
  rw [hown]
  rcases w.build_cases none with ⟨e, -, hbuild⟩ | ⟨-, hbuild⟩ <;> rw [hbuild]
  · exact ⟨fun _ hclient => (by cases hclient), hcount⟩
  · refine ⟨?_, ?_⟩
    · rintro _ ⟨⟩
      exact ⟨List.getElem?_concat_length, rfl⟩
    · change (w.built ++ [none]).count none = 1
      rw [List.count_append, hcount]
      rfl

/-- What else happens has nothing to do with that client. -/
theorem own_answer_cases (w : World) (a : Action) : a = .ownClient ∨
    (w.answer a).2.own = w.own ∧ (w.answer a).2.built.count none = w.built.count none := by
  cases a with
  | ownClient => exact Or.inl rfl
  | build token =>
      refine Or.inr ?_
      change (w.build (some token)).2.own = w.own ∧
        (w.build (some token)).2.built.count none = w.built.count none
      rcases w.build_cases (some token) with ⟨e, -, hbuild⟩ | ⟨-, hbuild⟩ <;> rw [hbuild]
      · exact ⟨rfl, rfl⟩
      · exact ⟨rfl, List.count_append.trans rfl⟩
  | remember token client =>
      exact Or.inr ⟨w.own_remember token client, congrArg _ (w.built_remember token client)⟩
  | call | lookup | count | readCounters => exact Or.inr ⟨rfl, rfl⟩

theorem IsHonest.own_answer (h : w.IsHonest) (a : Action) :
    (∀ client ∈ (w.answer a).2.own, (w.answer a).2.Produced client none) ∧
      (w.answer a).2.built.count none = if (w.answer a).2.own.isSome then 1 else 0 := by
  rcases w.own_answer_cases a with rfl | ⟨hown, hcount⟩
  · exact h.own_ownClient
  · rw [hown, hcount]
    exact ⟨fun client hclient => (h.own client hclient).mono (w.built_answer a), h.once⟩

/-- An honest world stays so, if clients enter the cache under their own token. -/
theorem IsHonest.answer (h : w.IsHonest) {a : Action}
    (hremember : ∀ token client, a = .remember token client → w.Produced client (some token)) :
    (w.answer a).2.IsHonest where
  cache := isSound_answer h.cache a
  cached := by
    intro e he
    rcases mem_cache_answer he with hold | hnew
    · exact (h.cached e hold).mono (w.built_answer a)
    · exact (hremember e.1 e.2 hnew).mono (w.built_answer a)
  own := (h.own_answer a).1
  once := (h.own_answer a).2

/-! ### Clients that are given out -/

theorem IsHonest.produced_of_lookup (h : w.IsHonest) (hfound : (w.lookup token).1 = some client) :
    (w.lookup token).2.Produced client (some token) :=
  h.cached _ (Cache.mem_of_lookup hfound)

theorem IsHonest.produced_of_ownClient (h : w.IsHonest) (hown : w.ownClient.1 = .ok client) :
    w.ownClient.2.Produced client none := by
  rcases w.ownClient_cases with ⟨known, hsome, heq⟩ | ⟨-, heq⟩ <;> rw [heq] at hown ⊢
  · cases hown
    exact h.own _ hsome
  · exact produced_of_build hown

end World
end Fleet.Service

import Fleet.Proofs.Credential.Cache
import Fleet.Proofs.Service.Caller
import Fleet.Proofs.Service.Clients

/-! # Callers whose client is there

There is a client for a token if it is in the cache, or if nothing keeps a new one from being built
(`World.HasClient`).  Whoever was served is in the cache afterwards, since no errand changes the cache:
so the next request with the same token is served as well, whatever happens to the builds. -/

namespace Fleet

open Credential Http Store

namespace Credential.Cache

variable {α : Type} {c : Cache α} {token : String} {a : α}

theorem peek?_front (capacity : Nat) (rest : List (String × α)) :
    (⟨capacity, (token, a) :: rest⟩ : Cache α).peek? token = some a := by
  simp [peek?]

theorem peek?_insert (c : Cache α) (token : String) (a : α) :
    (c.insert token a).2.peek? token = some a := by
  unfold Cache.insert
  split
  · exact peek?_front _ _
  · split <;> exact peek?_front _ _

theorem lookup_of_peek? (h : c.peek? token = some a) :
    c.lookup token = (some a, { c with entries := (token, a) :: c.without token }) := by
  unfold lookup
  rw [h]

end Credential.Cache

namespace Service

variable {w : World} {token : String} {client : Client}

/-! ### Clients -/

/-- To get a client is to find it or to build it; then it is in the cache. -/
theorem clientFor_cases (w : World) (token : String) :
    (∃ client w', w.run (Work.clientFor token) = (.ok client, w') ∧
      w'.cache.peek? token = some client) ∨
    ∃ error w', w.run (Work.clientFor token) = (.error error, w') ∧
      w.cache.peek? token = none ∧ w.outage = some error := by
  unfold Work.clientFor
  rw [World.run_bind]
  have hlookup : w.run (Work.lookup token) = w.lookup token := rfl
  rw [hlookup]
  cases hpeek : w.cache.peek? token with
  | some client =>
      unfold World.lookup
      rw [Cache.lookup_of_peek? hpeek]
      exact Or.inl ⟨client, _, rfl, Cache.peek?_front _ _⟩
  | none =>
      have hmissing : (w.lookup token).1 = none := by
        unfold World.lookup Cache.lookup
        rw [hpeek]
      have houtage : (w.lookup token).2.outage = w.outage := rfl
      generalize w.lookup token = ended at hmissing houtage
      obtain ⟨found, w'⟩ := ended
      cases hmissing
      dsimp only at houtage ⊢
      have hbuild : w'.run (Work.build token) = w'.build (some token) := rfl
      rw [World.run_bind, hbuild]
      rcases w'.build_cases (some token) with ⟨error, herror, hbuilt⟩ | ⟨-, hbuilt⟩ <;> rw [hbuilt]
      · exact Or.inr ⟨error, _, rfl, rfl, houtage ▸ herror⟩
      · refine Or.inl ⟨_, _, rfl, ?_⟩
        exact (congrArg (Cache.peek? · token) (World.cache_remember _ token _)).trans
          (Cache.peek?_insert _ token _)

/-- There is a client for the token, or one can be built. -/
def World.HasClient (w : World) (token : String) : Prop :=
  (w.cache.peek? token).isSome ∨ w.outage = none

theorem World.HasClient.not_error (h : w.HasClient token) {error : ClientError} {w' : World} :
    w.run (Work.clientFor token) ≠ (.error error, w') := by
  intro hrun
  rcases clientFor_cases w token with ⟨client, _, hrun', -⟩ | ⟨_, _, -, hnone, houtage⟩
  · rw [hrun'] at hrun
    cases hrun
  · rcases h with hsome | hfree
    · rw [hnone] at hsome
      cases hsome
    · rw [hfree] at houtage
      cases houtage

/-- Work as one client leaves the cache alone. -/
theorem cache_run {α : Type} {p : Work α} (h : p.Within (IsActionOf client)) :
    (w.run p).2.cache = w.cache := by
  induction p generalizing w with
  | done a => rfl
  | act action next ih =>
      have hcache : (w.answer action).2.cache = w.cache := by
        cases action with
        | call | count | readCounters => rfl
        | lookup | build | remember | ownClient => exact h.1.elim
      exact (ih _ (h.2 _)).trans hcache

/-! ### Requests -/

section Requests

variable {s : Setting} {r : Http.Request} {e : Errand}

/-- A caller who has a client is served. -/
theorem leads_client {R : Refusal → World → Prop} {D : Response → World → Prop}
    (hacts : r.ActsAs (some token)) (hclient : w.HasClient token)
    (hserve : ∀ client w', w'.store = w.store →
      Leads w' R D (serve s r (Route.of? r.path) (some client))) :
    Leads w R D (authenticate s r (Route.of? r.path)) := by
  refine leads_caller_of_run hacts (fun error w' hrun => (hclient.not_error hrun).elim) ?_
  intro client w' hrun
  have hstore := store_clientFor w token
  rw [hrun] at hstore
  exact hserve client w' hstore

theorem leads_served {α : Type} {t : Client → Task α} {f : α → Response}
    {R : Refusal → World → Prop} {D : α → World → Prop} (he : errand? s r = some e)
    (h : e.Renders t f) (hacts : r.ActsAs (some token)) (hclient : w.HasClient token)
    (ht : ∀ client w', w'.store = w.store → Leads w' R D (t client)) :
    Leads w R (fun response w' => ∃ a, D a w' ∧ response = f a)
      (authenticate s r (Route.of? r.path)) := by
  refine leads_client hacts hclient ?_
  intro client w' hstore
  rw [serve_of_errand? he hacts.1]
  exact h.leads (ht client w' hstore)

/-- A caller's request that cannot be refused. -/
theorem respond_of_done {α : Type} {t : Client → Task α} {f : α → Response}
    {D : α → World → Prop} (he : errand? s r = some e) (h : e.Renders t f)
    (hacts : r.ActsAs (some token)) (hclient : w.HasClient token)
    (ht : ∀ client w', w'.store = w.store → Leads w' (fun _ _ => False) D (t client)) :
    ∃ a, D a (w.run (respond s r)).2 ∧
      (w.run (respond s r)).1 = finish r (Route.of? r.path) (f a) := by
  rcases (leads_served he h hacts hclient ht).respond with
    ⟨_, hfalse, -⟩ | ⟨_, ⟨a, hdone, rfl⟩, hresponse⟩
  · exact hfalse.elim
  · exact ⟨a, hdone, hresponse⟩

/-- A caller's body that is too long is answered 413, and nothing is done. -/
theorem respond_tooLong {route : Route} {o : Operation} (hacts : r.ActsAs (some token))
    (hclient : w.HasClient token) (hroute : Route.of? r.path = some route)
    (ho : route.operation? r.method = some o) (hreads : ReadsBody o)
    (hlong : bodyLimit < r.body.length) :
    (w.run (respond s r)).1.status = 413 ∧ (w.run (respond s r)).2.store = w.store := by
  have hends : Leads w (fun _ _ => False) (fun response w' => response = tooLong ∧ w'.store = w.store)
      (authenticate s r (Route.of? r.path)) := by
    refine leads_client hacts hclient ?_
    intro client w' hstore
    rw [serve_of_operation? hroute ho, serveCaller_tooLong hreads hlong]
    exact leads_pure ⟨rfl, hstore⟩
  rcases hends.respond with ⟨_, hfalse, -⟩ | ⟨_, ⟨rfl, hstore⟩, hresponse⟩
  · exact hfalse.elim
  · exact ⟨congrArg Response.status hresponse, hstore⟩

theorem Asks.respond_tooLong {o : String → Operation} {id : String} (h : Asks r o id)
    (hreads : ∀ raw, pathId? raw = some id → ReadsBody (o raw)) (hacts : r.ActsAs (some token))
    (hclient : w.HasClient token) (hlong : bodyLimit < r.body.length) :
    (w.run (respond s r)).1.status = 413 ∧ (w.run (respond s r)).2.store = w.store := by
  obtain ⟨route, raw, hroute, ho, hid⟩ := h
  exact Service.respond_tooLong hacts hclient hroute ho (hreads raw hid) hlong

/-- Whoever is not refused is in the cache. -/
theorem hasClient_respond (hacts : r.ActsAs (some token))
    (hdone : (w.run (respond s r)).1.status < 400) :
    ((w.run (respond s r)).2.cache.peek? token).isSome := by
  have hends : Leads w
      (fun refusal w' => (w'.cache.peek? token).isSome ∨ refusal.status = 500)
      (fun _ w' => (w'.cache.peek? token).isSome) (authenticate s r (Route.of? r.path)) := by
    refine leads_caller_of_run hacts (fun error w' _ => Or.inr rfl) ?_
    intro client w' hrun
    have hcached : (w'.cache.peek? token).isSome := by
      rcases clientFor_cases w token with ⟨client, _, hrun', hpeek⟩ | ⟨_, _, hrun', -⟩ <;>
        rw [hrun'] at hrun <;> cases hrun
      rw [hpeek]
      rfl
    have hserved := cache_run (w := w') (within_serve s hacts.1 client)
    unfold Leads
    rw [← hserved] at hcached
    generalize w'.run (serve s r (Route.of? r.path) (some client)).run = ended at hcached
    obtain ⟨result, w''⟩ := ended
    cases result with
    | error e => exact Or.inl hcached
    | ok response => exact hcached
  rcases hends.respond with ⟨refusal, hrefused, hresponse⟩ | ⟨response, hcached, -⟩
  · refine hrefused.resolve_right (fun hstatus => ?_)
    have hresponse : (w.run (respond s r)).1.status = refusal.status :=
      congrArg Response.status hresponse
    omega
  · exact hcached

end Requests
end Service
end Fleet

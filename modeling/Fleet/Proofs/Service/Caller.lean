import Fleet.Proofs.Service.Alone
import Fleet.Proofs.Service.Body
import Fleet.Proofs.Service.Identity
import Fleet.Proofs.Service.Workshop

/-! # Callers' requests that are alone

A caller's request that has the world to itself first gets the client of its token, which leaves the
store as it is (`store_clientFor`), and then does its errand.  So it ends as its errand does
(`leads_authenticate`), and its response is what that end means (`Leads.respond`).  The operation of a
request may concern an object that its path names (`Asks`), and may read its body (`ReadsBody`), which
must not be too long. -/

namespace Fleet.Service

open Credential Http Store

section Callers

variable {w : World} {s : Setting} {r : Http.Request} {e : Errand} {token : String}

/-- To get a client the store is not asked. -/
theorem store_clientFor (w : World) (token : String) :
    (w.run (Work.clientFor token)).2.store = w.store := by
  unfold Work.clientFor
  rw [World.run_bind]
  have hlookup : (w.run (Work.lookup token)).2.store = w.store := rfl
  generalize w.run (Work.lookup token) = ended at hlookup
  obtain ⟨found, w'⟩ := ended
  cases found with
  | some client => exact hlookup
  | none =>
      dsimp only
      rw [World.run_bind]
      have hbuild : (w'.run (Work.build token)).2.store = w'.store :=
        Workshop.store_build w' (some token)
      generalize w'.run (Work.build token) = ended at hbuild
      obtain ⟨built, w''⟩ := ended
      cases built with
      | error e => exact hbuild.trans hlookup
      | ok client =>
          exact (Workshop.store_remember w'' token client).trans (hbuild.trans hlookup)

/-- All errands but handshakes are callers'. -/
theorem access_of_errand? (he : errand? s r = some e) :
    Access.of r.path = .caller ↔ ∀ q now, e ≠ .handshake q now := by
  obtain ⟨route, hroute, he⟩ := Option.bind_eq_some_iff.1 he
  obtain ⟨o, ho, he⟩ := Option.bind_eq_some_iff.1 he
  rw [Route.access_of_route hroute, ← Route.access_of_operation? ho]
  cases o with
  | health | metrics => cases he
  | install =>
      cases he
      exact ⟨fun h => (by cases h), fun h => absurd rfl (h _ _)⟩
  | _ =>
      refine ⟨?_, fun _ => rfl⟩
      rintro - q now rfl
      simp [operationErrand?, Option.bind_eq_some_iff] at he

/-! ### Ends -/

/-- A caller is served by doing the errand. -/
theorem serve_of_errand? (he : errand? s r = some e) (hcaller : Access.of r.path = .caller)
    (client : Client) : serve s r (Route.of? r.path) (some client) =
      ExceptT.mk (e.reply <$> e.work client) := by
  have hserves := serves_serve s r hcaller
  rw [he] at hserves
  exact hserves client

/-- Without an errand nothing is done. -/
theorem exists_serve_eq (he : errand? s r = none) (hcaller : Access.of r.path = .caller) :
    ∃ result, ∀ client, serve s r (Route.of? r.path) (some client) = ExceptT.mk (pure result) := by
  have hserves := serves_serve s r hcaller
  rw [he] at hserves
  obtain ⟨result, hresult⟩ := hserves
  exact ⟨result, hresult⟩

/-- What follows once there is a client for a caller, in the very world that it was got in. -/
theorem leads_caller_of_run {R : Refusal → World → Prop} {D : Response → World → Prop}
    (h : r.ActsAs (some token))
    (hclient : ∀ error w', w.run (Work.clientFor token) = (.error error, w') → R (.client error) w')
    (hserve : ∀ client w', w.run (Work.clientFor token) = (.ok client, w') →
      Leads w' R D (serve s r (Route.of? r.path) (some client))) :
    Leads w R D (authenticate s r (Route.of? r.path)) := by
  rw [authenticate_caller s h]
  refine Leads.bind (M := fun built w' => w.run (Work.clientFor token) = (built, w'))
    (leads_lift rfl) ?_
  rintro built w' hrun
  refine Leads.bind (M := fun client w'' => built = .ok client ∧ w'' = w')
    (leads_mapError ?_ (fun _ hok => ⟨hok, rfl⟩)) ?_
  · rintro error rfl
    exact hclient error w' hrun
  · rintro client w'' ⟨rfl, rfl⟩
    exact hserve client w'' hrun

/-- What follows once there is a client for a caller. -/
theorem leads_caller {R : Refusal → World → Prop} {D : Response → World → Prop}
    (h : r.ActsAs (some token))
    (hclient : ∀ error w', (w.run (Work.clientFor token)).1 = .error error →
      w'.store = w.store → R (.client error) w')
    (hserve : ∀ client w', w'.store = w.store →
      Leads w' R D (serve s r (Route.of? r.path) (some client))) :
    Leads w R D (authenticate s r (Route.of? r.path)) := by
  refine leads_caller_of_run h (fun error w' hrun => ?_) (fun client w' hrun => ?_)
  · have hstore := store_clientFor w token
    rw [hrun] at hstore
    exact hclient error w' (by rw [hrun]) hstore
  · have hstore := store_clientFor w token
    rw [hrun] at hstore
    exact hserve client w' hstore

/-- An errand that is rendered ends as it does before. -/
theorem Errand.Renders.leads {α : Type} {t : Client → Task α} {f : α → Response}
    {R : Refusal → World → Prop} {D : α → World → Prop} {client : Client} (h : e.Renders t f)
    (ht : Leads w R D (t client)) :
    Leads w R (fun response w' => ∃ a, D a w' ∧ response = f a)
      (ExceptT.mk (e.reply <$> e.work client)) := by
  have hrun : ExceptT.mk (e.reply <$> e.work client) = t client >>= fun a => pure (f a) :=
    h.run client
  rw [hrun]
  refine ht.bind ?_
  intro a w' hdone
  exact leads_pure ⟨a, hdone, rfl⟩

/-- A caller's request ends as the errand that it asks for. -/
theorem leads_authenticate {α : Type} {t : Client → Task α} {f : α → Response}
    {R : Refusal → World → Prop} {D : α → World → Prop} (he : errand? s r = some e)
    (h : e.Renders t f) (hacts : r.ActsAs (some token))
    (hclient : ∀ error w', (w.run (Work.clientFor token)).1 = .error error →
      w'.store = w.store → R (.client error) w')
    (ht : ∀ client w', w'.store = w.store → Leads w' R D (t client)) :
    Leads w R (fun response w' => ∃ a, D a w' ∧ response = f a)
      (authenticate s r (Route.of? r.path)) := by
  refine leads_caller hacts hclient ?_
  intro client w' hstore
  rw [serve_of_errand? he hacts.1]
  exact h.leads (ht client w' hstore)

/-! ### Responses -/

/-- The response to a request is what the end of its task means. -/
theorem Leads.respond {R : Refusal → World → Prop} {D : Response → World → Prop}
    (h : Leads w R D (authenticate s r (Route.of? r.path))) :
    let answer := w.run (respond s r)
    (∃ e, R e answer.2 ∧ answer.1 = finish r (Route.of? r.path) e.response) ∨
      ∃ response, D response answer.2 ∧ answer.1 = finish r (Route.of? r.path) response := by
  intro answer
  have hresponse := Leads.response
    (D := fun response w' => (∃ e, R e w' ∧ response = e.response) ∨ D response w')
    (h.mono (fun e _ hrefused => Or.inl ⟨e, hrefused, rfl⟩) (fun _ _ => Or.inr))
  have hanswer : answer = (finish r (Route.of? r.path)
      (w.run (authenticate s r (Route.of? r.path)).response).1,
      (w.run (authenticate s r (Route.of? r.path)).response).2) := by
    unfold answer Service.respond
    dsimp only
    rw [World.run_bind]
    rfl
  rw [hanswer]
  rcases hresponse with ⟨e, hrefused, heq⟩ | hdone
  · exact Or.inl ⟨e, hrefused, congrArg (finish r (Route.of? r.path)) heq⟩
  · exact Or.inr ⟨_, hdone, rfl⟩

/-- The response to a request that misses its credential. -/
def unidentified (r : Http.Request) : Response :=
  finish r (Route.of? r.path) Refusal.missingCredential.response

theorem respond_missing (s : Setting) (h : Access.of r.path = .caller)
    (hnone : ∀ token, ¬ r.Presents token) : respond s r = pure (unidentified r) := by
  unfold respond
  dsimp only
  rw [authenticate_missing s h hnone]
  rfl

/-- Callers who are not refused presented a token. -/
theorem exists_actsAs (h : Access.of r.path = .caller)
    (hdone : (w.run (respond s r)).1.status < 400) : ∃ token, r.ActsAs (some token) := by
  by_cases htoken : ∃ token, r.Presents token
  · obtain ⟨token, htoken⟩ := htoken
    exact ⟨token, h, htoken⟩
  · rw [respond_missing s h (fun token hpresents => htoken ⟨token, hpresents⟩)] at hdone
    have hrefused : 400 < 400 := hdone
    omega

/-- Whoever is not refused asked for an operation. -/
theorem exists_operation (hdone : (w.run (respond s r)).1.status < 400) :
    ∃ route o, Route.of? r.path = some route ∧ route.operation? r.method = some o := by
  by_cases hknown : ∃ route o, Route.of? r.path = some route ∧ route.operation? r.method = some o
  · exact hknown
  exfalso
  have hserve : ∀ client, ∃ response, serve s r (Route.of? r.path) client = pure response ∧
      400 ≤ response.status := by
    intro client
    unfold serve
    cases hroute : Route.of? r.path with
    | none => exact ⟨_, rfl, by decide⟩
    | some route =>
        dsimp only
        cases ho : route.operation? r.method with
        | none => exact ⟨_, rfl, by decide⟩
        | some o => exact absurd ⟨route, o, hroute, ho⟩ hknown
  have hends : Leads w (fun e _ => 400 ≤ e.status) (fun response _ => 400 ≤ response.status)
      (authenticate s r (Route.of? r.path)) := by
    by_cases hcaller : Access.of r.path = .caller
    · by_cases htoken : ∃ token, r.Presents token
      · obtain ⟨token, htoken⟩ := htoken
        refine leads_caller ⟨hcaller, htoken⟩ (fun _ _ _ _ => (by decide : 400 ≤ 500)) ?_
        intro client w' _
        obtain ⟨response, hresponse, hstatus⟩ := hserve (some client)
        rw [hresponse]
        exact leads_pure hstatus
      · rw [authenticate_missing s hcaller (fun token h => htoken ⟨token, h⟩)]
        exact leads_throw (Nat.le_refl 400)
    · rw [authenticate_anyone s hcaller]
      obtain ⟨response, hresponse, hstatus⟩ := hserve none
      rw [hresponse]
      exact leads_pure hstatus
  rcases hends.respond with ⟨e, hstatus, hresponse⟩ | ⟨response, hstatus, hresponse⟩ <;>
    rw [hresponse] at hdone <;> exact absurd hdone (Nat.not_lt.2 hstatus)

end Callers

/-! ### What is asked for -/

/-- The request asks for an operation on the object with an identifier. -/
def Asks (r : Http.Request) (o : String → Operation) (id : String) : Prop :=
  ∃ route raw, Route.of? r.path = some route ∧ route.operation? r.method = some (o raw) ∧
    pathId? raw = some id

section Asks

variable {r : Http.Request} {o : String → Operation} {id : String}

theorem Asks.access (h : Asks r o id) (ho : ∀ raw, (o raw).access = .caller) :
    Access.of r.path = .caller := by
  obtain ⟨route, raw, hroute, hoperation, -⟩ := h
  rw [Route.access_of_route hroute, ← Route.access_of_operation? hoperation, ho]

theorem serve_of_operation? {s : Setting} {route : Route} {o : Operation}
    (hroute : Route.of? r.path = some route) (ho : route.operation? r.method = some o)
    (client : Client) :
    Service.serve s r (Route.of? r.path) (some client) = serveCaller s r client o := by
  unfold Service.serve
  rw [hroute]
  dsimp only
  rw [ho]

theorem Asks.serve (h : Asks r o id) (s : Setting) : ∃ raw, pathId? raw = some id ∧ ∀ client,
    Service.serve s r (Route.of? r.path) (some client) = serveCaller s r client (o raw) := by
  obtain ⟨route, raw, hroute, hoperation, hid⟩ := h
  exact ⟨raw, hid, serve_of_operation? hroute hoperation⟩

end Asks

/-! ### Bodies that are too long -/

/-- The operation reads the body of its request; the path writes the identifier of an object that it
concerns. -/
def ReadsBody : Operation → Prop
  | .createTenant | .createCluster => True
  | .updateTenant raw | .updateCluster raw | .putCluster raw | .reportCompilation raw =>
    (pathId? raw).isSome
  | _ => False

theorem serveCaller_tooLong {s : Setting} {r : Http.Request} {o : Operation} (ho : ReadsBody o)
    (hlong : bodyLimit < r.body.length) (client : Client) :
    serveCaller s r client o = pure tooLong := by
  have hbody : ∀ f, withBody r f = pure tooLong := by
    intro f
    unfold withBody
    rw [receivedBody?_of_lt hlong]
  cases o with
  | createTenant | createCluster => exact hbody _
  | updateTenant raw | updateCluster raw | putCluster raw | reportCompilation raw =>
      obtain ⟨id, hid⟩ := Option.isSome_iff_exists.1 ho
      dsimp only [serveCaller, withId]
      rw [hid]
      exact hbody _
  | _ => cases ho

end Fleet.Service

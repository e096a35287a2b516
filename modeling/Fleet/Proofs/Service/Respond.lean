import Fleet.Proofs.Http.Route
import Fleet.Proofs.Service.Keeping
import Fleet.Service.Router

/-! # Requests are errands

What a request asks for is an errand (`errand?`), unless it is refused before or only asks how the
service is.  A caller's request is served by doing its errand and rendering what comes of it
(`serves_serve`), so whatever the request says, answering it keeps the contract of that errand
(`permits_respond`); one that asks for none keeps the contract of any. -/

namespace Fleet.Service

open Http Record

/-! ### What requests ask for -/

/-- The errand of an operation, if the request says what it needs. -/
def operationErrand? (s : Setting) (r : Http.Request) : Operation → Option Errand
  | .health | .metrics => none
  | .install => some (.handshake ⟨presentedToken r.query, baseUrl r, s.config.image⟩ s.now)
  | .listTenants => some .listTenants
  | .createTenant => do
    let body ← receivedBody? r
    let t ← (readBody Record.Tenant.layout.decode body).toOption
    return .createTenant s.config s.words t
  | .getTenant raw => do
    let id ← pathId? raw
    return .getTenant id
  | .updateTenant raw => do
    let id ← pathId? raw
    let body ← receivedBody? r
    let p ← (readStrict TenantProperties.layout body).toOption
    return .updateTenant id p
  | .deleteTenant raw => do
    let id ← pathId? raw
    return .deleteTenant id
  | .listClusters => do
    let q ← (readListQuery {} (Url.readForm (r.query.getD ""))).toOption
    return .listClusters ⟨s.config, baseUrl r, s.now, s.words⟩ q
  | .createCluster => do
    let body ← receivedBody? r
    let c ← (readBody Record.Cluster.layout.decode body).toOption
    return .createCluster ⟨s.config, baseUrl r, s.now, s.words⟩ c
  | .getCluster raw => do
    let id ← pathId? raw
    return .getCluster ⟨s.config, baseUrl r, s.now, s.words⟩ id
  | .updateCluster raw => do
    let id ← pathId? raw
    let body ← receivedBody? r
    let p ← (readStrict ClusterProperties.layout body).toOption
    return .updateCluster ⟨s.config, baseUrl r, s.now, s.words⟩ id p
  | .putCluster raw => do
    let id ← pathId? raw
    let body ← receivedBody? r
    let c ← (readBody Record.Cluster.layout.decode body).toOption
    return .putCluster ⟨s.config, baseUrl r, s.now, s.words⟩ id c
  | .deleteCluster raw => do
    let id ← pathId? raw
    return .deleteCluster id
  | .reportCompilation raw => do
    let id ← pathId? raw
    let body ← receivedBody? r
    let report ← (readBody CompileReport.layout.decode body).toOption
    return .reportCompilation id report

/-- The errand of a request, if its path is known and allows its method, and if it says what it
needs. -/
def errand? (s : Setting) (r : Http.Request) : Option Errand := do
  let route ← Route.of? r.path
  let operation ← route.operation? r.method
  operationErrand? s r operation

/-! ### Replies -/

/-- The status of the reply to an errand that is done. -/
def Errand.status : Errand → Nat
  | .createTenant _ _ _ | .createCluster _ _ => 201
  | _ => 200

/-- What an errand leads to: a response, or a refusal. -/
def Errand.reply (e : Errand) : Outcome → Except Refusal Response
  | .tenants result => result.map (fun l => .json 200 (.array (l.map Record.Tenant.layout.encode)))
  | .tenant result => result.map (tenantResponse e.status)
  | .clusters result => result.map (fun l => .json 200 (.array (l.map Record.Cluster.layout.encode)))
  | .cluster result => result.map (clusterResponse e.status)
  | .put result => result.map (fun put => clusterResponse (if put.1 then 201 else 200) put.2)
  | .nothing result => result.map (fun _ => .bare 204)
  | .manifests result => (result.mapError .handshake).map (.json 200)

/-- The response that a task gives, or that its refusal means. -/
def responseOf : Except Refusal Response → Response
  | .ok response => response
  | .error e => e.response

/-- The tasks of all clients do an errand and render what comes of it, or come to the same end at once
if there is none. -/
def Serves (errand : Option Errand) (t : Client → Task Response) : Prop :=
  match errand with
  | none => ∃ result, ∀ client, (t client).run = pure result
  | some e => ∀ client, (t client).run = e.reply <$> e.work client

section Serving

variable {α ε : Type}

theorem serves_pure (response : Response) : Serves none (fun _ => pure response) :=
  ⟨.ok response, fun _ => rfl⟩

/-- An errand is a task, and its reply renders what comes of it. -/
def Errand.Renders (e : Errand) (t : Client → Task α) (f : α → Response) : Prop :=
  ∃ wrap : Except Refusal α → Outcome, (∀ client, e.work client = wrap <$> (t client).run) ∧
    ∀ result, e.reply (wrap result) = result.map f

theorem Errand.Renders.run {e : Errand} {t : Client → Task α} {f : α → Response}
    (h : e.Renders t f) (client : Client) :
    e.reply <$> e.work client = (t client >>= fun a => pure (f a)).run := by
  obtain ⟨wrap, hwork, hreply⟩ := h
  have hrun : (t client >>= fun a => pure (f a)).run = Except.map f <$> (t client).run :=
    (congrArg ExceptT.run (bind_pure_comp f (t client))).trans (ExceptT.run_map f (t client))
  rw [hrun, hwork, ← comp_map]
  exact congrArg (· <$> (t client).run) (funext hreply)

/-- An errand that is done is not answered as one that was refused. -/
theorem Errand.Renders.status_lt {e : Errand} {t : Client → Task α} {f : α → Response}
    (h : e.Renders t f) (a : α) : (f a).status < 400 := by
  obtain ⟨wrap, -, hreply⟩ := h
  have hdone : ∀ outcome response, e.reply outcome = .ok response → response.status < 400 := by
    intro outcome response hok
    have hstatus : e.status < 400 := by
      unfold Errand.status
      split <;> decide
    cases outcome with
    | put result =>
        obtain ⟨put, -, rfl⟩ := Result.exists_of_map hok
        change (if put.1 then 201 else 200) < 400
        split <;> decide
    | tenant result | cluster result =>
        obtain ⟨shown, -, rfl⟩ := Result.exists_of_map hok
        exact hstatus
    | tenants result | clusters result | manifests result =>
        obtain ⟨shown, -, rfl⟩ := Result.exists_of_map hok
        exact Nat.le_of_ble_eq_true rfl
    | nothing result =>
        obtain ⟨_, -, rfl⟩ := Result.exists_of_map hok
        exact Nat.le_of_ble_eq_true rfl
  exact hdone _ _ (hreply (.ok a))

theorem serves_render {e : Errand} {t : Client → Task α} {f : α → Response}
    (h : e.Renders t f) : Serves (some e) (fun client => t client >>= fun a => pure (f a)) :=
  fun client => (h.run client).symm

theorem serves_of {refusal : ε → Refusal} {r : Except ε α} {f : Client → α → Task Response}
    {N : α → Option Errand} (hf : ∀ a, Serves (N a) (fun client => f client a)) :
    Serves (r.toOption.bind N) (fun client => Task.of refusal r >>= f client) := by
  cases r with
  | error e => exact ⟨.error (refusal e), fun _ => rfl⟩
  | ok a => exact hf a

theorem serves_except {r : Except Refusal α} {f : Client → α → Task Response}
    {N : α → Option Errand} (hf : ∀ a, Serves (N a) (fun client => f client a)) :
    Serves (r.toOption.bind N) (fun client => (liftM r : Task α) >>= f client) := by
  cases r with
  | error e => exact ⟨.error e, fun _ => rfl⟩
  | ok a => exact hf a

theorem serves_withId {raw : String} {f : Client → String → Task Response}
    {N : String → Option Errand} (hf : ∀ id, Serves (N id) (fun client => f client id)) :
    Serves ((pathId? raw).bind N) (fun client => withId raw (f client)) := by
  unfold withId
  cases pathId? raw with
  | none => exact serves_pure _
  | some id => exact hf id

theorem serves_withBody {r : Http.Request} {f : Client → List UInt8 → Task Response}
    {N : List UInt8 → Option Errand} (hf : ∀ body, Serves (N body) (fun client => f client body)) :
    Serves ((receivedBody? r).bind N) (fun client => withBody r (f client)) := by
  unfold withBody
  cases receivedBody? r with
  | none => exact serves_pure _
  | some body => exact hf body

end Serving

/-! ### Operations -/

section Operations

variable (s : Setting) (r : Http.Request)

theorem serves_serveCaller {o : Operation} (ho : o.access = .caller) :
    Serves (operationErrand? s r o) (fun client => serveCaller s r client o) := by
  cases o with
  | health | metrics | install => cases ho
  | listTenants => exact serves_render ⟨.tenants, fun _ => rfl, fun _ => rfl⟩
  | createTenant =>
      exact serves_withBody (fun body => serves_except (fun t =>
        serves_render ⟨.tenant, fun _ => rfl, fun _ => rfl⟩))
  | getTenant raw =>
      exact serves_withId (fun id => serves_render ⟨.tenant, fun _ => rfl, fun _ => rfl⟩)
  | updateTenant raw =>
      exact serves_withId (fun id => serves_withBody (fun body => serves_except (fun p =>
        serves_render ⟨.tenant, fun _ => rfl, fun _ => rfl⟩)))
  | deleteTenant raw =>
      exact serves_withId (fun id => serves_render ⟨.nothing, fun _ => rfl, fun _ => rfl⟩)
  | listClusters =>
      exact serves_of (fun q => serves_render ⟨.clusters, fun _ => rfl, fun _ => rfl⟩)
  | createCluster =>
      exact serves_withBody (fun body => serves_except (fun c =>
        serves_render ⟨.cluster, fun _ => rfl, fun _ => rfl⟩))
  | getCluster raw =>
      exact serves_withId (fun id => serves_render ⟨.cluster, fun _ => rfl, fun _ => rfl⟩)
  | updateCluster raw =>
      exact serves_withId (fun id => serves_withBody (fun body => serves_except (fun p =>
        serves_render ⟨.cluster, fun _ => rfl, fun _ => rfl⟩)))
  | putCluster raw =>
      exact serves_withId (fun id => serves_withBody (fun body => serves_except (fun c =>
        serves_render ⟨.put, fun _ => rfl, fun _ => rfl⟩)))
  | deleteCluster raw =>
      exact serves_withId (fun id => serves_render ⟨.nothing, fun _ => rfl, fun _ => rfl⟩)
  | reportCompilation raw =>
      exact serves_withId (fun id => serves_withBody (fun body => serves_except (fun report =>
        serves_render ⟨.nothing, fun _ => rfl, fun _ => rfl⟩)))

/-- A caller's request is served by doing its errand. -/
theorem serves_serve (hcaller : Credential.Access.of r.path = .caller) :
    Serves (errand? s r) (fun client => serve s r (Route.of? r.path) (some client)) := by
  unfold serve errand?
  cases hroute : Route.of? r.path with
  | none => exact serves_pure _
  | some route =>
      change Serves ((route.operation? r.method).bind (operationErrand? s r)) _
      dsimp only
      cases ho : route.operation? r.method with
      | none => exact serves_pure _
      | some o =>
          have haccess := Route.access_of_operation? ho
          rw [← Route.access_of_route hroute] at haccess
          exact serves_serveCaller s r (haccess.trans hcaller)

/-- What is served for anyone besides manifests takes the counters at most. -/
theorem serveAnyone_cases (o : Operation) :
    (∃ response, serveAnyone s r o = pure response) ∨
      (∃ render : Counters → Response,
        (serveAnyone s r o).run = (fun counters => .ok (render counters)) <$> Work.readCounters) ∨
      o = .install := by
  cases o with
  | metrics => exact Or.inr (Or.inl ⟨_, rfl⟩)
  | install => exact Or.inr (Or.inr rfl)
  | _ => exact Or.inl ⟨_, rfl⟩

end Operations

/-! ### Contracts -/

section Contracts

variable {s : Setting} {r : Http.Request} {e : Errand} {errand : Option Errand}

theorem permits_of_serves {t : Client → Task Response} (ht : Serves errand t)
    (he : errand.getD e = e) (client : Client) (h : History) : e.Permits h (t client).run := by
  cases errand with
  | none =>
      obtain ⟨result, hresult⟩ := ht
      rw [hresult]
      exact Errand.permits_pure result
  | some e' =>
      obtain rfl : e' = e := he
      rw [ht]
      exact Program.keeps_map ((Errand.keeps_work e' client h).mono (fun _ _ _ => trivial))

theorem permits_serveAnyone {o : Operation} (he : (operationErrand? s r o).getD e = e)
    (h : History) : e.Permits h (serveAnyone s r o).run := by
  rcases serveAnyone_cases s r o with ⟨response, ho⟩ | ⟨render, ho⟩ | rfl
  · rw [ho]
    exact Errand.permits_pure _
  · rw [ho]
    exact ⟨trivial, fun _ _ => trivial⟩
  · obtain rfl : Errand.handshake ⟨presentedToken r.query, baseUrl r, s.config.image⟩ s.now = e := he
    unfold serveAnyone
    dsimp only
    rw [Errand.run_lift_bind]
    refine ⟨trivial, fun client _ => Errand.permits_of_bind (fun client _ => ?_)⟩
    rw [Errand.run_lift_bind]
    apply Errand.permits_bind Errand.permits_handshake
    intro k result
    exact Errand.permits_of_bind (fun _ _ => Errand.permits_pure _)

theorem permits_serve_anyone (he : (errand? s r).getD e = e) (h : History) :
    e.Permits h (serve s r (Route.of? r.path) none).run := by
  unfold errand? at he
  unfold serve
  cases hroute : Route.of? r.path with
  | none => exact Errand.permits_pure _
  | some route =>
      rw [hroute] at he
      dsimp only
      cases ho : route.operation? r.method with
      | none => exact Errand.permits_pure _
      | some o =>
          change ((route.operation? r.method).bind (operationErrand? s r)).getD e = e at he
          rw [ho] at he
          exact permits_serveAnyone he h

theorem permits_clientFor (e : Errand) (h : History) (token : String) :
    e.Permits h (Work.clientFor token) := by
  refine ⟨trivial, ?_⟩
  intro found _
  cases found with
  | some client => trivial
  | none =>
      refine ⟨trivial, ?_⟩
      intro built _
      cases built with
      | error _ => trivial
      | ok client => exact ⟨trivial, fun _ _ => trivial⟩

theorem permits_authenticate {s : Setting} {r : Http.Request} {e : Errand}
    (he : (errand? s r).getD e = e) (h : History) :
    e.Permits h (authenticate s r (Route.of? r.path)).run := by
  unfold authenticate
  cases hcaller : Credential.Access.of r.path with
  | anyone | bootstrapToken => exact permits_serve_anyone he h
  | caller =>
      dsimp only
      cases Credential.bearerToken? (r.header? "authorization") with
      | none => trivial
      | some token =>
          dsimp only
          rw [Errand.run_lift_bind]
          apply Errand.permits_bind (permits_clientFor e h token)
          intro k client
          exact Errand.permits_of_bind (fun client _ =>
            permits_of_serves (serves_serve s r hcaller) he client k)

theorem exists_errand (s : Setting) (r : Http.Request) : ∃ e : Errand, (errand? s r).getD e = e := by
  cases errand? s r with
  | none => exact ⟨.listTenants, rfl⟩
  | some e => exact ⟨e, rfl⟩

/-- Answering a request keeps the contract of the errand that it asks for. -/
theorem permits_respond {s : Setting} {r : Http.Request} {e : Errand}
    (he : (errand? s r).getD e = e) (h : History) : e.Permits h (respond s r) := by
  unfold respond Task.response
  refine Errand.permits_bind
    (Errand.permits_bind (permits_authenticate he h) (fun k result => ?_))
    (fun k response => Errand.permits_pure _)
  cases result <;> trivial

end Contracts

end Fleet.Service

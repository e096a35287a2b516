import Fleet.Proofs.Contract
import Fleet.Proofs.Http.Route
import Fleet.Proofs.Service.Respond

/-! # Whom requests act as

A request presents a token or none (`Http.Request.Presents`), and acts as the caller with that token,
as the service itself, or as nobody (`Http.Request.ActsAs`).  Once it has its client it calls the store
as that client only (`IsActionOf`). -/

namespace Fleet

open Credential Http Resource Service Store

/-! ### Tokens -/

/-- The request presents a token: its authorization header starts with the scheme, and the token is
what follows, without the blanks around it. -/
def Http.Request.Presents (r : Http.Request) (token : String) : Prop :=
  ∃ value rest, r.header? "authorization" = some value ∧ value.toList = "Bearer ".toList ++ rest ∧
    token.toList = Text.trim rest ∧ token ≠ ""

theorem bearerToken?_eq (value : String) :
    bearerToken? (some value) = if scheme <+: value.toList ∧
      Text.trim (value.toList.drop scheme.length) ≠ [] then
        some (String.ofList (Text.trim (value.toList.drop scheme.length))) else none := by
  have hstarts : scheme.isPrefixOf value.toList = true ↔ scheme <+: value.toList :=
    List.isPrefixOf_iff_prefix
  unfold bearerToken?
  by_cases hscheme : scheme <+: value.toList
  · by_cases hempty : Text.trim (value.toList.drop scheme.length) = []
    · simp [hstarts.2 hscheme, hempty]
    · simp [hscheme, hstarts.2 hscheme, hempty]
  · have hnot : scheme.isPrefixOf value.toList = false :=
      Bool.eq_false_iff.2 (mt hstarts.1 hscheme)
    simp [hscheme, hnot]

/-- The token that a request presents is the one that is read from it. -/
theorem Http.Request.presents_iff {r : Http.Request} {token : String} :
    r.Presents token ↔ bearerToken? (r.header? "authorization") = some token := by
  unfold Presents
  cases r.header? "authorization" with
  | none => simp [bearerToken?]
  | some value =>
      rw [bearerToken?_eq]
      constructor
      · rintro ⟨_, rest, hvalue, hstart, htoken, hne⟩
        cases hvalue
        have hrest : value.toList.drop scheme.length = rest := by
          rw [hstart]
          exact List.drop_left
        rw [hrest, ← htoken, if_pos ⟨⟨rest, hstart.symm⟩, by simpa using hne⟩,
          String.ofList_toList]
      · intro h
        split at h
        · next hcond =>
            obtain ⟨⟨rest, hstart⟩, hne⟩ := hcond
            cases h
            refine ⟨value, rest, rfl, hstart.symm, ?_, by simpa using hne⟩
            rw [String.toList_ofList, ← hstart]
            exact congrArg Text.trim List.drop_left
        · cases h

/-- The identity that a request acts as: that of its caller where the path asks for one, and that of
the service itself where a bootstrap token is checked. -/
def Http.Request.ActsAs (r : Http.Request) : Option String → Prop
  | some token => Access.of r.path = .caller ∧ r.Presents token
  | none => Access.of r.path = .bootstrapToken

namespace Service

/-! ### Work as one client -/

/-- Something that is done as a client: a call of its own, and what concerns no client at all. -/
def IsActionOf (client : Client) : Action → Prop
  | .call c _ => c = client
  | .count _ | .readCounters => True
  | _ => False

section Rules

variable {α β ε : Type} {A : Action → Prop} {client : Client}

theorem within_pure (a : α) : (pure a : Work α).Within A := trivial

theorem within_task_pure (a : α) : (pure a : ExceptT ε Work α).run.Within A := trivial

theorem within_task_bind {t : ExceptT ε Work α} {f : α → ExceptT ε Work β} (ht : t.run.Within A)
    (hf : ∀ a, (f a).run.Within A) : (t >>= f).run.Within A := by
  refine Program.within_bind ht ?_
  intro r
  cases r with
  | error e => exact within_pure _
  | ok a => exact hf a

theorem within_except (r : Except ε α) : (liftM r : ExceptT ε Work α).run.Within A := by
  cases r <;> exact within_pure _

theorem within_of (refusal : ε → Refusal) (r : Except ε α) : (Task.of refusal r).run.Within A :=
  within_except _

theorem within_call (c : Call) (h : A (.call client c)) : (Work.call client c).Within A :=
  ⟨h, fun _ => within_pure _⟩

theorem within_lift {p : Work α} (hp : p.Within A) : (liftM p : ExceptT ε Work α).run.Within A :=
  Program.within_bind hp (fun _ => within_pure _)

theorem within_ask (c : Call) (h : A (.call client c)) : (Task.ask client c).run.Within A :=
  within_task_bind (within_lift (within_call c h)) (fun _ => within_except _)

theorem within_question (c : Call) (h : A (.call client c)) :
    (Handshake.ask client c).run.Within A :=
  within_task_bind (within_lift (within_call c h)) (fun _ => within_except _)

theorem within_retryOnce {attempt : Nat → Work (Except StoreError α)}
    (h : ∀ n, (attempt n).Within A) : (Store.retryOnce attempt).Within A := by
  unfold Store.retryOnce
  refine Program.within_bind (h 0) ?_
  intro r
  cases r with
  | ok a => exact within_pure _
  | error e =>
      dsimp only
      split
      · exact h 1
      · exact within_pure _

end Rules

/-! #### Tenants and clusters -/

section Errands

variable {client : Client}

theorem within_listTenants : (Tenants.list client).run.Within (IsActionOf client) :=
  within_task_bind (within_ask .listTenants rfl) (fun _ => within_task_pure _)

theorem within_createTenant (config : Config) (words : Words) (t : Record.Tenant) :
    (Tenants.create config words client t).run.Within (IsActionOf client) := by
  unfold Tenants.create
  refine within_task_bind (within_of _ _) (fun tenant => ?_)
  exact within_task_bind (within_ask (.createTenant tenant) rfl) (fun _ => within_task_pure _)

theorem within_getTenant (id : String) : (Tenants.get client id).run.Within (IsActionOf client) :=
  within_task_bind (within_ask (.getTenant id) rfl) (fun _ => within_task_pure _)

theorem within_updateTenant (id : String) (p : Record.TenantProperties) :
    (Tenants.update client id p).run.Within (IsActionOf client) := by
  unfold Tenants.update
  refine within_task_bind (within_ask (.getTenant id) rfl) (fun found => ?_)
  refine within_task_bind (within_of _ _) (fun changed => ?_)
  exact within_task_bind (within_ask (.updateTenant changed) rfl) (fun _ => within_task_pure _)

theorem within_deleteTenant (id : String) :
    (Tenants.delete client id).run.Within (IsActionOf client) :=
  within_ask (.deleteTenant id) rfl

theorem within_render (x : Clusters.Context) (c : Cluster) :
    (Clusters.render x c).run.Within (IsActionOf client) := within_of _ _

theorem within_writeStatus (written : Cluster) (status : Option ClusterStatus) :
    (Clusters.writeStatus client written status).run.Within (IsActionOf client) := by
  by_cases hsame : status.isNone ∨ written.status = status
  · rw [Errand.writeStatus_of_same hsame]
    exact within_task_pure _
  · rw [Errand.writeStatus_of_other hsame]
    exact within_ask (.updateClusterStatus { written with status := status }) rfl

theorem within_store (x : Clusters.Context) (c : Cluster) :
    (Clusters.store x client c).run.Within (IsActionOf client) := by
  unfold Clusters.store
  refine within_task_bind (within_ask (.createCluster _) rfl) (fun created => ?_)
  exact within_writeStatus created _

theorem within_listClusters (x : Clusters.Context) (q : ListQuery) :
    (Clusters.list x client q).run.Within (IsActionOf client) := by
  unfold Clusters.list
  refine within_task_bind (within_ask (.listClusters _) rfl) (fun clusters => ?_)
  exact within_task_bind (within_of _ _) (fun _ => within_task_pure _)

theorem within_getCluster (x : Clusters.Context) (id : String) :
    (Clusters.get x client id).run.Within (IsActionOf client) :=
  within_task_bind (within_ask (.getCluster id) rfl) (fun found => within_render x found)

theorem within_createCluster (x : Clusters.Context) (c : Record.Cluster) :
    (Clusters.create x client c).run.Within (IsActionOf client) := by
  unfold Clusters.create
  refine within_task_bind (within_except _) (fun given => ?_)
  exact within_task_bind (within_store x given) (fun created => within_render x created)

theorem within_updateCluster (x : Clusters.Context) (id : String) (p : Record.ClusterProperties) :
    (Clusters.update x client id p).run.Within (IsActionOf client) := by
  unfold Clusters.update
  refine within_task_bind (within_ask (.getCluster id) rfl) (fun found => ?_)
  refine within_task_bind (within_of _ _) (fun changed => ?_)
  refine within_task_bind (within_ask (.updateCluster changed) rfl) (fun updated => ?_)
  exact within_task_bind (within_writeStatus updated _) (fun shown => within_render x shown)

theorem within_putCluster (x : Clusters.Context) (id : String) (c : Record.Cluster) :
    (Clusters.put x client id c).run.Within (IsActionOf client) := by
  unfold Clusters.put
  refine within_task_bind (within_except _) (fun given => ?_)
  refine within_task_bind (within_lift (within_call (.getCluster given.name) rfl))
    (fun found => ?_)
  cases found with
  | ok found =>
      refine within_task_bind (within_ask (.updateCluster _) rfl) (fun updated => ?_)
      exact within_task_bind (within_render x updated) (fun shown => within_task_pure (false, shown))
  | error e =>
      dsimp only
      split
      · refine within_task_bind (within_store x given) (fun created => ?_)
        exact within_task_bind (within_render x created) (fun _ => within_task_pure _)
      · exact within_pure _

theorem within_deleteCluster (id : String) :
    (Clusters.delete client id).run.Within (IsActionOf client) :=
  within_ask (.deleteCluster id) rfl

theorem within_reportCompilation (id : String) (report : Record.CompileReport) :
    (Clusters.reportCompilation client id report).run.Within (IsActionOf client) := by
  unfold Clusters.reportCompilation
  refine within_task_bind (within_of _ _) (fun m => ?_)
  refine within_task_bind (within_lift ?_) (fun r => ?_)
  · refine within_retryOnce (fun _ => ?_)
    refine Program.within_bind (within_call (.getCluster id) rfl) (fun found => ?_)
    cases found with
    | error e => exact within_pure _
    | ok c => exact within_call (.updateClusterStatus _) rfl
  · exact within_task_bind (within_of _ _) (fun _ => within_task_pure _)

end Errands

/-! #### Handshakes -/

section Handshakes

open Handshake

variable {client : Client}

theorem within_consume (c : Cluster) (token : String) :
    (consume client c token).Within (IsActionOf client) := by
  unfold consume
  cases spend? c token with
  | none => exact within_pure _
  | some spent =>
      exact Program.within_bind (within_call (.updateClusterStatus spent) rfl)
        (fun _ => within_pure _)

theorem within_commit (c : Cluster) (token : String) :
    (commit client c token).Within (IsActionOf client) := by
  refine within_retryOnce (fun n => ?_)
  split
  · exact within_consume c token
  · refine Program.within_bind (within_call (.getCluster c.name) rfl) (fun found => ?_)
    cases found with
    | ok c => exact within_consume c token
    | error e => exact within_pure _

theorem within_find (token : String) : (find client token).run.Within (IsActionOf client) := by
  unfold find
  refine within_task_bind (within_question (.listClusters none) rfl) (fun clusters => ?_)
  cases withToken? clusters token with
  | some c => exact within_task_pure c
  | none => exact within_pure _

theorem within_steps (r : Handshake.Request) (now : Instant) :
    (steps client r now).run.Within (IsActionOf client) := by
  unfold steps
  split
  · next token _ =>
      refine within_task_bind (within_find token) (fun c => ?_)
      refine within_task_bind (within_except _) (fun _ => ?_)
      refine within_task_bind (within_question .listSecrets rfl) (fun secrets => ?_)
      cases accountToken? secrets c.name with
      | none => exact within_pure _
      | some accountToken =>
          refine within_task_bind (within_lift (within_commit c token)) (fun result => ?_)
          cases result with
          | error e =>
              exact within_task_bind (within_lift ⟨trivial, fun _ => within_pure _⟩)
                (fun _ => within_pure _)
          | ok outcome =>
              cases outcome with
              | alreadyConsumed => exact within_pure _
              | consumed =>
                  exact within_task_bind (within_lift ⟨trivial, fun _ => within_pure _⟩)
                    (fun _ => within_task_pure _)
  · exact within_pure _

theorem within_handshake (r : Handshake.Request) (now : Instant) :
    (Handshake.run client r now).Within (IsActionOf client) := by
  unfold Handshake.run
  refine Program.within_bind (within_steps r now) (fun result => ?_)
  cases result with
  | error e => exact ⟨trivial, fun _ => within_pure _⟩
  | ok v => exact within_pure _

end Handshakes

/-! #### Requests -/

/-- An errand calls the store as its client only. -/
theorem within_work (e : Errand) (client : Client) : (e.work client).Within (IsActionOf client) := by
  have hmap : ∀ {α : Type} {p : Work α} {f : α → Outcome}, p.Within (IsActionOf client) →
      (f <$> p).Within (IsActionOf client) :=
    fun hp => Program.within_bind hp (fun _ => within_pure _)
  cases e with
  | listTenants => exact hmap within_listTenants
  | getTenant id => exact hmap (within_getTenant id)
  | createTenant config words t => exact hmap (within_createTenant config words t)
  | updateTenant id p => exact hmap (within_updateTenant id p)
  | deleteTenant id => exact hmap (within_deleteTenant id)
  | listClusters x q => exact hmap (within_listClusters x q)
  | getCluster x id => exact hmap (within_getCluster x id)
  | createCluster x c => exact hmap (within_createCluster x c)
  | updateCluster x id p => exact hmap (within_updateCluster x id p)
  | putCluster x id c => exact hmap (within_putCluster x id c)
  | deleteCluster id => exact hmap (within_deleteCluster id)
  | reportCompilation id report => exact hmap (within_reportCompilation id report)
  | handshake r now => exact hmap (within_handshake r now)

theorem within_serve (s : Setting) {r : Http.Request} (hcaller : Access.of r.path = .caller)
    (client : Client) :
    (serve s r (Route.of? r.path) (some client)).run.Within (IsActionOf client) := by
  have hserves := serves_serve s r hcaller
  cases herrand : errand? s r with
  | none =>
      rw [herrand] at hserves
      obtain ⟨result, hresult⟩ := hserves
      rw [hresult]
      exact within_pure result
  | some e =>
      rw [herrand] at hserves
      rw [hserves client]
      exact Program.within_bind (within_work e client) (fun _ => within_pure _)

/-! ### Identification -/

/-- How far a request has come to its client. -/
inductive Stage where
  /-- It has none yet. -/
  | unknown
  /-- The cache has none. -/
  | missing
  /-- It was built, but is not in the cache yet. -/
  | new (client : Client)
  /-- It could not be built. -/
  | failed (error : ClientError)
  /-- It has it. -/
  | ready (client : Client)

/-- The client that a request has come to. -/
def Stage.client? : Stage → Option Client
  | new client | ready client => some client
  | _ => none

/-- The client that an answer gives. -/
def Action.client? : (a : Action) → a.Answer → Option Client
  | .lookup _, found => found
  | .build _, built | .ownClient, built => built.toOption
  | _, _ => none

/-- How an answer brings a request on. -/
def Stage.learn : Stage → (a : Action) → a.Answer → Stage
  | unknown, .lookup _, found => found.elim missing ready
  | unknown, .ownClient, .ok client => ready client
  | missing, .build _, .ok client => new client
  | unknown, .ownClient, .error e | missing, .build _, .error e => failed e
  | new client, .remember _ _, _ => ready client
  | stage, _, _ => stage

/-- A request has its client from an answer. -/
theorem Stage.client?_learn {stage : Stage} {a : Action} {x : a.Answer} {client : Client}
    (h : (stage.learn a x).client? = some client) :
    stage.client? = some client ∨ a.client? x = some client := by
  unfold learn at h
  split at h
  case h_1 found =>
      cases found with
      | none => cases h
      | some client => exact Or.inr h
  case h_2 | h_3 => exact Or.inr h
  case h_4 | h_5 => cases h
  case h_6 | h_7 => exact Or.inl h

/-- What a request may do at a stage: it gets the client of the identity that it acts as, and then
acts as that client only. -/
def Stage.Allows (r : Http.Request) (stage : Stage) : Action → Prop
  | .lookup token => stage = unknown ∧ r.ActsAs (some token)
  | .build token => stage = missing ∧ r.ActsAs (some token)
  | .remember token client => stage = new client ∧ r.ActsAs (some token)
  | .ownClient => stage = unknown ∧ r.ActsAs none
  | .call client _ => stage = ready client
  | .count _ | .readCounters => stage = unknown ∨ ∃ client, stage = ready client

/-- How a request comes to its client and what it does then, whatever it is answered. -/
def identification (r : Http.Request) : Contract Action.Answer Stage where
  learn := Stage.learn
  relies _ _ _ := True
  allows := Stage.Allows r

/-- A request does not end before it has its client, and without one it is refused. -/
def Stage.EndsWith {α : Type} (refused : ClientError → α → Prop) : Stage → α → Prop
  | unknown, _ | ready _, _ => True
  | failed e, x => refused e x
  | missing, _ | new _, _ => False

section Identification

variable {α : Type} {r : Http.Request} {token : String} {client : Client}

/-- Work as a client, once it is there. -/
theorem keeps_ready {ends : Stage → α → Prop} {p : Work α} (h : p.Within (IsActionOf client))
    (hends : ∀ a, ends (.ready client) a) : p.Keeps (identification r) ends (.ready client) := by
  refine Program.Within.keeps (fun stage => stage = .ready client) ?_ ?_ ?_ h rfl
  · intro stage a x hstage _
    subst hstage
    rfl
  · intro stage a hstage ha
    subst hstage
    cases a with
    | call c _ => exact congrArg Stage.ready ha.symm
    | count | readCounters => exact Or.inr ⟨client, rfl⟩
    | _ => cases ha
  · intro stage a hstage
    subst hstage
    exact hends a

/-- What a task gives without a client is its refusal. -/
def Refused (e : ClientError) (x : Except Refusal α) : Prop := x = .error (.client e)

/-- The request has its client, or could not get it. -/
def Stage.IsSettled (stage : Stage) : Except ClientError Client → Prop
  | .ok client => stage = .ready client
  | .error e => stage = .failed e

/-- A client is asked for, and the task goes on with it. -/
theorem keeps_client_bind {p : Work (Except ClientError Client)} {f : Client → Task α}
    {stage : Stage} (hp : p.Keeps (identification r) Stage.IsSettled stage)
    (hf : ∀ client, (f client).run.Within (IsActionOf client)) :
    (do let client ← Task.of .client (← (p : Work (Except ClientError Client)))
        f client : Task α).run.Keeps (identification r) (Stage.EndsWith Refused) stage := by
  rw [Errand.run_lift_bind]
  refine Program.keeps_bind hp ?_
  intro _ result hsettled
  cases result with
  | ok client =>
      cases hsettled
      exact keeps_ready (hf client) (fun _ => trivial)
  | error e =>
      cases hsettled
      exact rfl

theorem keeps_clientFor (h : r.ActsAs (some token)) :
    (Work.clientFor token).Keeps (identification r) Stage.IsSettled .unknown := by
  refine ⟨⟨rfl, h⟩, ?_⟩
  intro found _
  cases found with
  | some client => exact rfl
  | none =>
      refine ⟨⟨rfl, h⟩, ?_⟩
      intro built _
      cases built with
      | error e => exact rfl
      | ok client => exact ⟨⟨rfl, h⟩, fun _ _ => rfl⟩

theorem keeps_ownClient (h : r.ActsAs none) :
    Work.ownClient.Keeps (identification r) Stage.IsSettled .unknown := by
  refine ⟨⟨rfl, h⟩, ?_⟩
  intro built _
  cases built <;> exact rfl

theorem keeps_serveAnyone (s : Setting) {o : Operation} (ho : o.access = Access.of r.path) :
    (serveAnyone s r o).run.Keeps (identification r) (Stage.EndsWith Refused) .unknown := by
  cases o with
  | metrics => exact ⟨Or.inl rfl, fun _ _ => trivial⟩
  | install =>
      refine keeps_client_bind (keeps_ownClient ho.symm) (fun client => ?_)
      refine within_task_bind (within_lift (within_handshake _ _)) (fun result => ?_)
      exact within_task_bind (within_of _ _) (fun _ => within_task_pure _)
  | _ => trivial

/-- Where no caller is asked for, the service acts as itself for manifests only. -/
theorem keeps_serve_anyone (s : Setting) {route : Option Route}
    (hroute : ∀ known ∈ route, known.access = Access.of r.path) :
    (serve s r route none).run.Keeps (identification r) (Stage.EndsWith Refused) .unknown := by
  unfold serve
  cases route with
  | none => trivial
  | some route =>
      dsimp only
      cases ho : route.operation? r.method with
      | none => trivial
      | some o => exact keeps_serveAnyone s ((Route.access_of_operation? ho).trans (hroute route rfl))

theorem authenticate_anyone (s : Setting) {route : Option Route} (h : Access.of r.path ≠ .caller) :
    authenticate s r route = serve s r route none := by
  unfold authenticate
  cases haccess : Access.of r.path with
  | anyone | bootstrapToken => rfl
  | caller => exact absurd haccess h

/-- A caller's request is served as the client of its token. -/
theorem authenticate_caller (s : Setting) {route : Option Route} (h : r.ActsAs (some token)) :
    authenticate s r route = (do
      let client ← Task.of .client
        (← (Work.clientFor token : Work (Except ClientError Client)))
      serve s r route (some client)) := by
  unfold authenticate
  rw [h.1, Http.Request.presents_iff.1 h.2]

theorem authenticate_missing (s : Setting) {route : Option Route} (h : Access.of r.path = .caller)
    (hnone : ∀ token, ¬ r.Presents token) :
    authenticate s r route = throw .missingCredential := by
  unfold authenticate
  rw [h]
  cases htoken : bearerToken? (r.header? "authorization") with
  | none => rfl
  | some token => exact absurd (Http.Request.presents_iff.2 htoken) (hnone token)

theorem keeps_authenticate (s : Setting) (r : Http.Request) :
    (authenticate s r (Route.of? r.path)).run.Keeps (identification r) (Stage.EndsWith Refused)
      .unknown := by
  have hroute : ∀ known ∈ Route.of? r.path, known.access = Access.of r.path :=
    fun known hknown => (Route.access_of_route hknown).symm
  by_cases hcaller : Access.of r.path = .caller
  · by_cases htoken : ∃ token, r.Presents token
    · obtain ⟨token, htoken⟩ := htoken
      have hacts : r.ActsAs (some token) := ⟨hcaller, htoken⟩
      rw [authenticate_caller s hacts]
      refine keeps_client_bind (keeps_clientFor hacts) (fun client => ?_)
      exact within_serve s hcaller client
    · rw [authenticate_missing s hcaller (fun token h => htoken ⟨token, h⟩)]
      trivial
  · rw [authenticate_anyone s hcaller]
    exact keeps_serve_anyone s hroute

/-- A request calls the store as the client of the identity that it acts as, or not at all. -/
theorem keeps_respond (s : Setting) (r : Http.Request) :
    (respond s r).Keeps (identification r) (Stage.EndsWith fun e response =>
      response = finish r (Route.of? r.path) (Refusal.client e).response) .unknown := by
  have hanswer : (authenticate s r (Route.of? r.path)).response.Keeps (identification r)
      (Stage.EndsWith fun e response => response = (Refusal.client e).response) .unknown := by
    refine Program.keeps_bind (keeps_authenticate s r) ?_
    intro stage result hends
    cases stage with
    | unknown | ready client => cases result <;> trivial
    | failed e =>
        cases hends
        exact rfl
    | missing | new client => cases hends
  refine Program.keeps_bind hanswer ?_
  intro stage response hends
  cases stage with
  | unknown | ready client => trivial
  | failed e => exact congrArg (finish r (Route.of? r.path)) hends
  | missing | new client => cases hends

end Identification

end Service
end Fleet

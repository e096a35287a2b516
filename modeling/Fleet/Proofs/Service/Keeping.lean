import Fleet.Proofs.Service.Errand

/-! # Errands keep their contracts

`Errand.keeps_work` goes through every errand step by step: whatever the store answers, within what
the contract relies on, the errand writes its own change of the object that it obtained last.  A
handshake gives manifests only after it wrote the observed state of their cluster. -/

namespace Fleet.Service.Errand

open Resource

/-! ### Work that may end anyhow -/

/-- Work that takes what the contract of an errand allows, however it ends. -/
def Permits {α : Type} (e : Errand) (h : History) (p : Work α) : Prop :=
  p.Keeps e.contract (fun _ _ => True) h

section Permits

variable {α β ε : Type} {e : Errand} {h : History} {client : Client}

theorem permits_pure (a : α) : e.Permits h (pure a) := trivial

theorem permits_ask_bind {c : Store.Call} {f : c.Result → Task β}
    (hallows : e.allows h (.call client c))
    (hok : ∀ a, relies h (.call client c) (.ok a) →
      e.Permits (⟨.call client c, .ok a⟩ :: h) (f a).run) :
    e.Permits h (Task.ask client c >>= f).run := by
  refine ⟨hallows, ?_⟩
  intro x hx
  cases x with
  | error _ => trivial
  | ok a => exact hok a hx

theorem permits_ask {c : Store.Call} (hallows : e.allows h (.call client c)) :
    e.Permits h (Task.ask client c).run := by
  refine ⟨hallows, ?_⟩
  intro x _
  cases x <;> trivial

theorem permits_of_bind {refusal : ε → Refusal} {r : Except ε α} {f : α → Task β}
    (hok : ∀ a, r = .ok a → e.Permits h (f a).run) :
    e.Permits h (Task.of refusal r >>= f).run := by
  cases r with
  | error _ => trivial
  | ok a => exact hok a rfl

theorem permits_except_bind {r : Except Refusal α} {f : α → Task β}
    (hok : ∀ a, r = .ok a → e.Permits h (f a).run) :
    e.Permits h ((liftM r : Task α) >>= f).run := by
  cases r with
  | error _ => trivial
  | ok a => exact hok a rfl

theorem permits_call_bind {c : Store.Call} {f : c.Answer → Work β}
    (hallows : e.allows h (.call client c))
    (hnext : ∀ x, relies h (.call client c) x → e.Permits (⟨.call client c, x⟩ :: h) (f x)) :
    e.Permits h (Work.call client c >>= f) := ⟨hallows, hnext⟩

theorem run_lift_bind (p : Work α) (f : α → ExceptT ε Work β) :
    ((liftM p : ExceptT ε Work α) >>= f).run = p >>= fun a => (f a).run := by
  induction p with
  | done a => rfl
  | act action next ih => exact congrArg (Program.act action) (funext ih)

theorem permits_lift_bind {p : Work α} {f : α → Task β}
    (hp : e.Permits h (p >>= fun a => (f a).run)) :
    e.Permits h ((liftM p : Task α) >>= f).run := by
  rw [run_lift_bind]
  exact hp

/-- Work that goes on whatever it was given. -/
theorem permits_bind {p : Work α} {f : α → Work β} (hp : e.Permits h p)
    (hf : ∀ k a, e.Permits k (f a)) : e.Permits h (p >>= f) :=
  Program.keeps_bind hp (fun k a _ => hf k a)

end Permits

/-! ### Tenants -/

section Tenants

variable {h : History} {client : Client}

theorem permits_listTenants : listTenants.Permits h (Tenants.list client).run :=
  permits_ask_bind trivial (fun _ _ => permits_pure _)

theorem permits_getTenant (id : String) :
    (getTenant id).Permits h (Tenants.get client id).run :=
  permits_ask_bind trivial (fun _ _ => permits_pure _)

theorem permits_deleteTenant (id : String) :
    (deleteTenant id).Permits h (Tenants.delete client id).run := permits_ask trivial

theorem permits_createTenant (config : Config) (words : Words) (t : Record.Tenant) :
    (createTenant config words t).Permits h (Tenants.create config words client t).run := by
  unfold Tenants.create
  refine permits_of_bind ?_
  intro tenant hprepared
  refine permits_ask_bind (by exact hprepared) ?_
  intro created _
  exact permits_pure _

theorem permits_updateTenant (id : String) (p : Record.TenantProperties) :
    (updateTenant id p).Permits h (Tenants.update client id p).run := by
  unfold Tenants.update
  refine permits_ask_bind trivial ?_
  intro found hname
  refine permits_of_bind ?_
  intro tenant htake
  have hlast : lastTenant tenant.name (⟨.call client (.getTenant id), .ok found⟩ :: h) =
      some found := lastTenant_single rfl (Exchange.Tenant.name_of_result_take htake).symm
  exact permits_ask_bind ⟨found, hlast, htake⟩ (fun _ _ => permits_pure _)

end Tenants

/-! ### Clusters -/

section Clusters

variable {β : Type} {e : Errand} {h : History} {client : Client}

theorem writeStatus_of_same {written : Cluster} {status : Option ClusterStatus}
    (hsame : status.isNone ∨ written.status = status) :
    Clusters.writeStatus client written status = pure written := if_pos hsame

theorem writeStatus_of_other {written : Cluster} {status : Option ClusterStatus}
    (hother : ¬ (status.isNone ∨ written.status = status)) :
    Clusters.writeStatus client written status =
      Task.ask client (.updateClusterStatus { written with status := status }) := if_neg hother

theorem permits_writeStatus {written : Cluster} {status : Option ClusterStatus}
    (hlast : lastCluster written.name h = some written)
    (hobserves : e.Observes written { written with status := status })
    (hfresh : e.context?.isSome → written.status = none) :
    e.Permits h (Clusters.writeStatus client written status).run := by
  by_cases hsame : status.isNone ∨ written.status = status
  · rw [writeStatus_of_same hsame]
    exact permits_pure _
  · rw [writeStatus_of_other hsame]
    exact permits_ask ⟨written, hlast, hobserves, hfresh⟩

theorem permits_store {x : Clusters.Context} {given : Cluster} (hx : e.context? = some x)
    (hgiven : e.Prepared given) : e.Permits h (Clusters.store x client given).run := by
  unfold Clusters.store
  refine permits_ask_bind ⟨x, given, hx, hgiven, rfl⟩ ?_
  intro created hcreated
  refine permits_writeStatus (lastCluster_single rfl rfl) ?_ (fun _ => hcreated.2)
  cases e with
  | createCluster | putCluster => exact ⟨given, hgiven, rfl⟩
  | _ => cases hgiven

theorem permits_task_bind {α : Type} {t : Task α} {f : α → Task β} (ht : e.Permits h t.run)
    (hf : ∀ k a, e.Permits k (f a).run) : e.Permits h (t >>= f).run := by
  refine permits_bind ht ?_
  intro k r
  cases r with
  | error _ => trivial
  | ok a => exact hf k a

theorem permits_render (x : Clusters.Context) (c : Cluster) :
    e.Permits h (Clusters.render x c).run := by
  unfold Clusters.render Task.of
  cases Clusters.show? x.base x.now c <;> trivial

theorem permits_listClusters (x : Clusters.Context) (q : ListQuery) :
    (listClusters x q).Permits h (Clusters.list x client q).run :=
  permits_ask_bind trivial (fun _ _ => permits_of_bind (fun _ _ => permits_pure _))

theorem permits_getCluster (x : Clusters.Context) (id : String) :
    (getCluster x id).Permits h (Clusters.get x client id).run :=
  permits_ask_bind trivial (fun c _ => permits_render x c)

theorem permits_deleteCluster (id : String) :
    (deleteCluster id).Permits h (Clusters.delete client id).run := permits_ask rfl

theorem permits_createCluster (x : Clusters.Context) (c : Record.Cluster) :
    (createCluster x c).Permits h (Clusters.create x client c).run := by
  unfold Clusters.create
  refine permits_except_bind ?_
  intro given hgiven
  refine permits_task_bind (permits_store rfl hgiven) ?_
  intro k created
  exact permits_render x created

theorem permits_updateCluster (x : Clusters.Context) (id : String)
    (p : Record.ClusterProperties) :
    (updateCluster x id p).Permits h (Clusters.update x client id p).run := by
  unfold Clusters.update
  refine permits_ask_bind trivial ?_
  intro found hname
  refine permits_of_bind ?_
  intro changed htake
  have hlast : lastCluster changed.name (⟨.call client (.getCluster id), .ok found⟩ :: h) =
      some found := lastCluster_single rfl (Exchange.Cluster.name_of_result_take htake).symm
  refine permits_ask_bind ⟨found, hlast, htake⟩ ?_
  intro written hwritten
  have hstatus : found.status = written.status := (hwritten.2 found hlast).symm
  refine permits_task_bind ?_ (fun k shown => permits_render x shown)
  exact permits_writeStatus (lastCluster_single rfl rfl) ⟨found, changed, hstatus, htake, rfl⟩
    (fun hsome => by cases hsome)

theorem permits_putCluster (x : Clusters.Context) (id : String) (c : Record.Cluster) :
    (putCluster x id c).Permits h (Clusters.put x client id c).run := by
  unfold Clusters.put
  refine permits_except_bind ?_
  intro given hgiven
  refine permits_lift_bind (permits_call_bind trivial (fun answer hanswer => ?_))
  cases answer with
  | ok found =>
      have hlast : lastCluster (Clusters.replaceBy found given).name
          (⟨.call client (.getCluster given.name), .ok found⟩ :: h) = some found :=
        lastCluster_single rfl rfl
      have hname : given.name = Cluster.name found := Eq.symm hanswer
      refine permits_ask_bind ⟨found, hlast, given, hgiven, hname, rfl⟩ ?_
      intro updated _
      exact permits_task_bind (permits_render x updated) (fun _ _ => permits_pure _)
  | error error =>
      by_cases hmissing : error.isNotFound
      · dsimp only
        rw [if_pos hmissing]
        refine permits_task_bind (permits_store rfl hgiven) ?_
        intro k created
        exact permits_task_bind (permits_render x created) (fun _ _ => permits_pure _)
      · dsimp only
        rw [if_neg hmissing]
        trivial

/-- Attempts that may be made at any time may be repeated. -/
theorem permits_retryOnce {α : Type} {attempt : Nat → Work (Except StoreError α)}
    (hattempt : ∀ n k, e.Permits k (attempt n)) : e.Permits h (Store.retryOnce attempt) := by
  unfold Store.retryOnce
  refine permits_bind (hattempt 0 h) ?_
  intro k r
  cases r with
  | ok a => exact permits_pure _
  | error error =>
      dsimp only
      split
      · exact hattempt 1 k
      · exact permits_pure _

theorem permits_writeCompileMeta {id : String} {report : Record.CompileReport}
    {m : CompileMeta} (hm : Exchange.Cluster.compileMeta report = .ok m) :
    (reportCompilation id report).Permits h (Clusters.writeCompileMeta client id m) := by
  unfold Clusters.writeCompileMeta
  refine permits_retryOnce (fun _ k => permits_call_bind trivial (fun answer hanswer => ?_))
  cases answer with
  | error _ => exact permits_pure _
  | ok found =>
      have hlast : lastCluster found.name (⟨.call client (.getCluster id), .ok found⟩ :: k) =
          some found := lastCluster_single rfl rfl
      exact ⟨⟨found, hlast, ⟨m, hm, rfl⟩, fun hsome => by cases hsome⟩, fun _ _ => trivial⟩

theorem permits_reportCompilation (id : String) (report : Record.CompileReport) :
    (reportCompilation id report).Permits h (Clusters.reportCompilation client id report).run := by
  unfold Clusters.reportCompilation
  refine permits_of_bind (fun m hm => permits_lift_bind ?_)
  refine permits_bind (permits_writeCompileMeta hm) ?_
  intro k r
  exact permits_of_bind (fun _ _ => permits_pure _)

end Clusters

/-! ### Handshakes -/

section Handshakes

open Handshake

variable {h : History} {client : Client} {r : Handshake.Request} {now : Instant}

theorem keeps_consume {c : Cluster} {token : String} (hlast : lastCluster c.name h = some c)
    (htoken : token ∈ r.token) : (consume client c token).Keeps (handshake r now).contract
      (fun k result => result = .ok .consumed → HasObserved k c.name) h := by
  unfold consume
  cases hs : spend? c token with
  | none => exact fun hr => by cases hr
  | some spent =>
      obtain ⟨status, t, -, -, -, -, hspent⟩ := exists_of_spend? hs
      have hname : spent.name = c.name := by rw [hspent]; rfl
      refine ⟨⟨c, hname ▸ hlast, ⟨token, htoken, hs⟩, fun hsome => by cases hsome⟩, ?_⟩
      intro x _
      cases x with
      | error _ => exact fun hr => by cases hr
      | ok x => exact fun _ => ⟨client, spent, x, hname, List.mem_cons_self⟩

theorem keeps_commit {c : Cluster} {token : String} (hlast : lastCluster c.name h = some c)
    (htoken : token ∈ r.token) : (commit client c token).Keeps (handshake r now).contract
      (fun k result => result = .ok .consumed → HasObserved k c.name) h := by
  unfold commit Store.retryOnce
  refine Program.keeps_bind (keeps_consume hlast htoken) ?_
  intro k result hresult
  cases result with
  | ok a => exact hresult
  | error error =>
      dsimp only
      split
      · refine ⟨trivial, ?_⟩
        intro answer hanswer
        cases answer with
        | error _ => exact fun hr => by cases hr
        | ok c' =>
            have hname : Cluster.name c' = c.name := hanswer
            have hlast' : lastCluster (Cluster.name c')
                (⟨.call client (.getCluster c.name), .ok c'⟩ :: k) = some c' :=
              lastCluster_single rfl rfl
            rw [← hname]
            exact keeps_consume hlast' htoken
      · exact fun hr => by cases hr

theorem keeps_exceptT_bind {α β ε : Type} {c : Contract Action.Answer History}
    {mid : History → Except ε α → Prop} {last : History → Except ε β → Prop}
    {t : ExceptT ε Work α} {f : α → ExceptT ε Work β} (ht : t.run.Keeps c mid h)
    (hok : ∀ k a, mid k (.ok a) → (f a).run.Keeps c last k)
    (herror : ∀ k e, mid k (.error e) → last k (.error e)) : (t >>= f).run.Keeps c last h := by
  refine Program.keeps_bind ht ?_
  intro k result hresult
  cases result with
  | ok a => exact hok k a hresult
  | error e => exact herror k e hresult

/-- A question of a handshake. -/
theorem keeps_ask_bind {β : Type} {c : Store.Call} {e : Errand}
    {last : History → Except HandshakeError β → Prop} {f : c.Result → Steps β}
    (hallows : e.allows h (.call client c))
    (hok : ∀ a, relies h (.call client c) (.ok a) →
      (f a).run.Keeps e.contract last (⟨.call client c, .ok a⟩ :: h))
    (herror : ∀ k error, last k (.error error)) :
    (Handshake.ask client c >>= f).run.Keeps e.contract last h := by
  refine ⟨hallows, ?_⟩
  intro x hx
  cases x with
  | error error => exact herror _ _
  | ok a => exact hok a hx

theorem keeps_find {token : String} : (find client token).run.Keeps (handshake r now).contract
    (fun k result => ∀ c, result = .ok c → lastCluster c.name k = some c) h := by
  unfold find
  refine keeps_ask_bind trivial (fun clusters hnodup => ?_) (fun k e c hc => by cases hc)
  unfold withToken?
  cases hfind : List.find? _ clusters with
  | none => exact fun c hc => by cases hc
  | some c =>
      intro c' hc'
      cases hc'
      exact lastCluster_several (List.mem_of_find?_eq_some hfind) hnodup

/-- How a handshake ends. -/
def Served (k : History) (result : Except HandshakeError Json.Value) : Prop :=
  ∀ v, result = .ok v → ∃ b, v = bundle b ∧ HasObserved k b.cluster

theorem served_error {k : History} (e : HandshakeError) : Served k (.error e) := by
  intro v hv
  cases hv

theorem keeps_steps : (steps client r now).run.Keeps (handshake r now).contract Served h := by
  unfold steps
  split
  · next token htoken =>
      have hmem : token ∈ r.token := (Option.filter_eq_some_iff.1 htoken).1
      refine keeps_exceptT_bind keeps_find (fun k c hlast => ?_) (fun k e _ => served_error e)
      cases hcheck : check c now with
      | error e => exact served_error e
      | ok _ =>
          refine keeps_ask_bind trivial (fun secrets _ => ?_) (fun _ e => served_error e)
          have hlast' : lastCluster c.name (⟨.call client .listSecrets, .ok secrets⟩ :: k) =
              some c := (lastCluster_skip rfl).trans (hlast c rfl)
          cases accountToken? secrets c.name with
          | none => exact served_error _
          | some accountToken =>
              dsimp only
              rw [run_lift_bind]
              refine Program.keeps_bind (keeps_commit hlast' hmem) ?_
              intro k result hresult
              cases result with
              | error e => exact ⟨trivial, fun _ _ => served_error _⟩
              | ok a =>
                  cases a with
                  | alreadyConsumed => exact served_error _
                  | consumed =>
                      refine ⟨trivial, ?_⟩
                      intro _ _ v hv
                      cases hv
                      obtain ⟨client', spent, x, hname, hspent⟩ := hresult rfl
                      exact ⟨_, rfl, client', spent, x, hname, List.mem_cons_of_mem _ hspent⟩
  · exact served_error _

theorem keeps_run : (Handshake.run client r now).Keeps (handshake r now).contract Served h := by
  unfold Handshake.run
  refine Program.keeps_bind keeps_steps ?_
  intro k result hresult
  cases result with
  | error e => exact ⟨trivial, fun _ _ => served_error e⟩
  | ok v => exact hresult

theorem keeps_handshake : ((handshake r now).work client).Keeps (handshake r now).contract
    (handshake r now).ends h := by
  refine Program.keeps_map (keeps_run.mono (fun k result hresult => ?_))
  cases result with
  | error e => trivial
  | ok v =>
      obtain ⟨b, hv, hobserved⟩ := hresult v rfl
      exact ⟨r, now, b, rfl, hv, hobserved⟩

theorem permits_handshake : (handshake r now).Permits h (Handshake.run client r now) :=
  keeps_run.mono (fun _ _ _ => trivial)

end Handshakes

/-- Every errand keeps its contract, whatever happened before. -/
theorem keeps_work (e : Errand) (client : Client) (h : History) :
    (e.work client).Keeps e.contract e.ends h := by
  have hmap : ∀ {α : Type} {p : Work α} {f : α → Outcome}, e.Permits h p →
      (∀ k a, e.ends k (f a)) → (f <$> p).Keeps e.contract e.ends h :=
    fun hp hf => Program.keeps_map (hp.mono (fun k a _ => hf k a))
  cases e with
  | listTenants => exact hmap permits_listTenants (fun _ _ => trivial)
  | getTenant id => exact hmap (permits_getTenant id) (fun _ _ => trivial)
  | createTenant config words t =>
      exact hmap (permits_createTenant config words t) (fun _ _ => trivial)
  | updateTenant id p => exact hmap (permits_updateTenant id p) (fun _ _ => trivial)
  | deleteTenant id => exact hmap (permits_deleteTenant id) (fun _ _ => trivial)
  | listClusters x q => exact hmap (permits_listClusters x q) (fun _ _ => trivial)
  | getCluster x id => exact hmap (permits_getCluster x id) (fun _ _ => trivial)
  | createCluster x c => exact hmap (permits_createCluster x c) (fun _ _ => trivial)
  | updateCluster x id p => exact hmap (permits_updateCluster x id p) (fun _ _ => trivial)
  | putCluster x id c => exact hmap (permits_putCluster x id c) (fun _ _ => trivial)
  | deleteCluster id => exact hmap (permits_deleteCluster id) (fun _ _ => trivial)
  | reportCompilation id report =>
      exact hmap (permits_reportCompilation id report) (fun _ _ => trivial)
  | handshake r now => exact keeps_handshake

end Fleet.Service.Errand

import Fleet.Proofs.Delivery
import Fleet.Proofs.Exchange.Blame
import Fleet.Proofs.Rejection
import Fleet.Proofs.Service.Cached

/-! # No internal errors

Nothing that is stored makes the service fail (`leads_authenticate_noFault`): a request with an errand
is refused with the status of an internal error (`NoFault`) only because no client could be built.
What may be refused besides is wrong with the request, or is there already, missing or changed.  Every
stored cluster can be shown, alone and in a list (`exists_shown_all`). -/

namespace Fleet

open Credential Http Resource Service Store

namespace Service

/-- Several clusters are shown if each of them is. -/
theorem exists_shown_all {clusters : List Cluster} (h : ∀ c ∈ clusters, c.IsDated) (base : String)
    (now : Instant) : ∃ records, clusters.mapM (Clusters.show? base now) = .ok records := by
  induction clusters with
  | nil => exact ⟨[], rfl⟩
  | cons c clusters ih =>
      obtain ⟨record, hrecord⟩ := exists_show? (h c List.mem_cons_self) base now
      obtain ⟨records, hrecords⟩ := ih (fun c' hc' => h c' (List.mem_cons_of_mem _ hc'))
      rw [List.mapM_cons, hrecord]
      change ∃ all, (clusters.mapM (Clusters.show? base now) >>= fun records =>
        pure (record :: records)) = .ok all
      rw [hrecords]
      exact ⟨record :: records, rfl⟩

theorem isDated_of_mem_clustersOf {m : Memory} (h : m.IsDated) {tenant : Option String}
    {c : Cluster} (hc : c ∈ m.clustersOf tenant) : c.IsDated := by
  obtain ⟨name, hget⟩ := Dict.exists_get?_of_mem_values (List.mem_of_mem_filter hc)
  exact h name c hget

/-! ### Refusals -/

/-- The refusal does not have the status of an internal error. -/
def NoFault (r : Refusal) (_ : World) : Prop := r.status ≠ 500

section Errands

variable {w : World} {client : Client} {α : Type}

theorem noFault_change {e : Exchange.ChangeError} (h : e.isClientError = true) :
    NoFault (.change e) w := by
  have hstatus : (Refusal.change e).status = 400 := if_pos h
  unfold NoFault
  rw [hstatus]
  decide

/-- The store in memory does not fail with an internal error. -/
theorem storeStatus_ne {m : Memory} {c : Call} {error : StoreError}
    (h : (m.answer c).1 = .error error) : storeStatus error ≠ 500 := by
  rcases storeStatus_of_answer_error h with hstatus | hstatus <;> omega

theorem leads_ask_noFault {c : Call} {D : c.Result → World → Prop}
    (hok : ∀ a, (w.store.answer c).1 = .ok a → D a (w.afterCall c)) :
    Leads w NoFault D (Task.ask client c) :=
  leads_ask (fun _ herror => storeStatus_ne herror) hok

theorem noFault_ask (c : Call) : Leads w NoFault (fun _ _ => True) (Task.ask client c) :=
  leads_ask_noFault (fun _ _ => trivial)

theorem leads_change_noFault {r : Except Exchange.ChangeError α} (h : Exchange.BlamesClient r) :
    Leads w NoFault (fun a w' => r = .ok a ∧ w' = w) (Task.of .change r) :=
  leads_mapError (fun e he => noFault_change (h e he)) (fun _ hok => ⟨hok, rfl⟩)

/-! #### Tenants -/

theorem noFault_listTenants : Leads w NoFault (fun _ _ => True) (Tenants.list client) :=
  (noFault_ask .listTenants).bind (fun _ _ _ => leads_pure trivial)

theorem noFault_getTenant (id : String) :
    Leads w NoFault (fun _ _ => True) (Tenants.get client id) :=
  (noFault_ask (.getTenant id)).bind (fun _ _ _ => leads_pure trivial)

theorem noFault_createTenant (config : Config) (words : Words) (record : Record.Tenant) :
    Leads w NoFault (fun _ _ => True) (Tenants.create config words client record) := by
  unfold Tenants.create
  refine (leads_change_noFault (blamesClient_prepareTenant config words record)).bind ?_
  intro tenant w' _
  exact (noFault_ask (.createTenant tenant)).bind (fun _ _ _ => leads_pure trivial)

theorem noFault_updateTenant (id : String) (p : Record.TenantProperties) :
    Leads w NoFault (fun _ _ => True) (Tenants.update client id p) := by
  unfold Tenants.update
  refine (noFault_ask (.getTenant id)).bind ?_
  intro found w' _
  refine (leads_change_noFault (Exchange.Tenant.blamesClient_take p found)).bind ?_
  intro changed w'' _
  exact (noFault_ask (.updateTenant changed)).bind (fun _ _ _ => leads_pure trivial)

/-! #### Clusters -/

theorem noFault_writeStatus (written : Cluster) (status : Option ClusterStatus) :
    Leads w NoFault (fun _ _ => True) (Clusters.writeStatus client written status) := by
  by_cases hsame : status.isNone ∨ written.status = status
  · rw [Errand.writeStatus_of_same hsame]
    exact leads_pure trivial
  · rw [Errand.writeStatus_of_other hsame]
    exact noFault_ask (.updateClusterStatus _)

theorem noFault_store (x : Clusters.Context) (given : Cluster) :
    Leads w NoFault (fun _ _ => True) (Clusters.store x client given) :=
  (noFault_ask (.createCluster _)).bind (fun _ _ _ => noFault_writeStatus _ _)

theorem leads_prepare_noFault {x : Clusters.Context} {record : Record.Cluster} :
    Leads w NoFault (fun given w' => Clusters.prepare x record = .ok given ∧ w' = w)
      (liftM (Clusters.prepare x record) : Task Cluster) := by
  refine leads_except (fun r hr => ?_) (fun _ h => ⟨h, rfl⟩)
  have hstatus : r.status = 400 := status_of_prepareCluster x record r hr
  unfold NoFault
  omega

theorem leads_getCluster_noFault (id : String) :
    Leads w NoFault (fun found w' => w.store.clusters.get? id = some found ∧ w' = w)
      (Task.ask client (.getCluster id)) :=
  leads_ask_getCluster id (fun _ hstatus => by cases hstatus)

/-- Clusters are listed, all that are asked for. -/
theorem leads_listClusters {R : Refusal → World → Prop} (hdated : w.store.IsDated)
    (x : Clusters.Context) (q : ListQuery) :
    Leads w R (fun shown _ => ∃ records,
        (w.store.clustersOf (q.tenant.filter (fun t => !t.isEmpty))).mapM
          (Clusters.show? x.base x.now) = .ok records ∧
        shown = Record.sortClusters (q.sortBy.getD .id) records)
      (Clusters.list x client q) := by
  unfold Clusters.list
  refine Leads.bind (M := fun clusters _ =>
    clusters = w.store.clustersOf (q.tenant.filter (fun t => !t.isEmpty)))
    (leads_ask (c := .listClusters _) (fun _ herror => by cases herror) ?_) ?_
  · intro clusters hclusters
    cases hclusters
    rfl
  rintro clusters w' rfl
  obtain ⟨records, hrecords⟩ :=
    exists_shown_all (fun c hc => isDated_of_mem_clustersOf hdated hc) x.base x.now
  rw [hrecords]
  exact leads_pure ⟨records, rfl, rfl⟩

/-- A cluster that is there is shown. -/
theorem leads_getCluster_found {R : Refusal → World → Prop} {x : Clusters.Context} {id : String}
    {c : Cluster} (hget : w.store.clusters.get? id = some c) (hc : c.IsDated) :
    Leads w R (fun record w' => Clusters.show? x.base x.now c = .ok record ∧ w' = w)
      (Clusters.get x client id) := by
  unfold Clusters.get
  refine Leads.bind (leads_found hget) ?_
  rintro found w' ⟨rfl, rfl⟩
  exact Errand.leads_render hc (fun _ hrecord => ⟨hrecord, rfl⟩)

theorem noFault_getCluster (hdated : w.store.IsDated) (x : Clusters.Context) (id : String) :
    Leads w NoFault (fun _ _ => True) (Clusters.get x client id) := by
  cases hget : w.store.clusters.get? id with
  | some c =>
      exact (leads_getCluster_found hget (hdated id c hget)).mono (fun _ _ h => h)
        (fun _ _ _ => trivial)
  | none =>
      refine (leads_getCluster_noFault id).bind ?_
      rintro found w' ⟨hfound, -⟩
      rw [hget] at hfound
      cases hfound

theorem noFault_createCluster (x : Clusters.Context) (record : Record.Cluster) :
    Leads w NoFault (fun _ _ => True) (Clusters.create x client record) := by
  unfold Clusters.create
  refine leads_prepare_noFault.bind ?_
  rintro given w' ⟨hprepared, rfl⟩
  have hgiven : (Errand.createCluster x record).Prepared given := hprepared
  refine ((noFault_store x given).and (Errand.leads_store rfl hgiven)).mono
    (fun _ _ h => h.1) (fun _ _ h => h.2) |>.bind ?_
  rintro stored w'' ⟨-, hstored⟩
  exact Errand.leads_render (hgiven.isDated_of_isWritten hstored) (fun _ _ => trivial)

theorem noFault_updateCluster (hs : w.store.IsSound) (hdated : w.store.IsDated)
    (x : Clusters.Context) (id : String) (p : Record.ClusterProperties) :
    Leads w NoFault (fun _ _ => True) (Clusters.update x client id p) := by
  unfold Clusters.update
  refine (leads_getCluster_noFault id).bind ?_
  rintro found w' ⟨hget, rfl⟩
  refine (leads_change_noFault (Exchange.Cluster.blamesClient_take p found)).bind ?_
  rintro changed w'' ⟨htake, rfl⟩
  have hname : changed.name = id :=
    (Exchange.Cluster.name_of_result_take htake).trans (hs.clusters.named id found hget)
  have hchanged : changed.IsDated := isDated_of_result_take (hdated id found hget) htake
  refine Leads.assoc (((Errand.leads_rewrite (hname ▸ hget)
    (Exchange.Cluster.revision_of_result_take htake)).mono (fun r _ hconflict => ?_)
    (fun _ _ hdone => hdone)).bind ?_)
  · unfold NoFault
    rw [hconflict.1]
    decide
  · rintro stored w' ⟨-, hstored⟩
    rw [Errand.status_of_result_take htake] at hstored
    exact Errand.leads_render (hstored.isDated hchanged) (fun _ _ => trivial)

theorem noFault_putCluster (hs : w.store.IsSound) (hdated : w.store.IsDated)
    (x : Clusters.Context) (id : String) (record : Record.Cluster) :
    Leads w NoFault (fun _ _ => True) (Clusters.put x client id record) := by
  cases hgiven : Clusters.prepare x { record with id := id } with
  | error error =>
      unfold Clusters.put
      refine leads_prepare_noFault.bind ?_
      rintro given w' ⟨hprepared, -⟩
      rw [hgiven] at hprepared
      cases hprepared
  | ok given =>
      cases hget : w.store.clusters.get? given.name with
      | none =>
          have hprepared : (Errand.putCluster x id record).Prepared given := hgiven
          have hfaultless : Leads w NoFault (fun _ _ => True) (Clusters.store x client given) :=
            noFault_store x given
          have hstore := (hfaultless.and (Errand.leads_store rfl hprepared)).mono
            (fun _ _ h => h.1) (fun _ _ h => h.2)
          exact (Errand.leads_put_of_store hgiven hget hstore).mono (fun _ _ h => h)
            (fun _ _ _ => trivial)
      | some found =>
          have hname : found.name = given.name := hs.clusters.named given.name found hget
          exact (Errand.leads_put_found hgiven hget hname (hdated _ found hget)).mono
            (fun _ _ h => h) (fun _ _ _ => trivial)

/-- An attempt to replace the compile metadata of a cluster fails for what the store fails for. -/
theorem leads_writeCompileMeta_noFault (id : String) (m : CompileMeta) :
    Leads w (fun e _ => storeStatus e ≠ 500) (fun _ _ => True)
      (ExceptT.mk (Clusters.writeCompileMeta client id m)) := by
  refine leads_retryOnce_always (fun _ w => leads_call_bind ?_)
  cases hread : (w.store.answer (.getCluster id)).1 with
  | error e => exact storeStatus_ne hread
  | ok c =>
      exact leads_call (c := .updateClusterStatus _) (fun _ herror => storeStatus_ne herror)
        (fun _ _ => trivial)

theorem noFault_reportCompilation (id : String) (report : Record.CompileReport) :
    Leads w NoFault (fun _ _ => True) (Clusters.reportCompilation client id report) := by
  unfold Clusters.reportCompilation
  refine (leads_change_noFault (Exchange.Cluster.blamesClient_compileMeta report)).bind ?_
  rintro m w' -
  refine (leads_result (leads_writeCompileMeta_noFault id m)).bind ?_
  rintro r w'' ⟨herror, -⟩
  exact (leads_mapError (R := NoFault) (D := fun _ _ => True) herror (fun _ _ => trivial)).bind
    (fun _ _ _ => leads_pure trivial)

end Errands

/-! ### Requests -/

section Requests

variable {w : World} {s : Setting} {r : Http.Request} {e : Errand} {client : Client} {α : Type}

theorem noFault_render {t : Client → Task α} {f : α → Response} (h : e.Renders t f)
    (ht : Leads w NoFault (fun _ _ => True) (t client)) :
    Leads w NoFault (fun response _ => response.status < 400)
      (ExceptT.mk (e.reply <$> e.work client)) := by
  refine (h.leads ht).mono (fun _ _ hrefused => hrefused) ?_
  rintro _ _ ⟨a, -, rfl⟩
  exact h.status_lt a

/-- No errand that is done for a caller ends with an internal error. -/
theorem noFault_work (hs : w.store.IsSound) (hdated : w.store.IsDated) (client : Client)
    (hne : ∀ q now, e ≠ .handshake q now) :
    Leads w NoFault (fun response _ => response.status < 400)
      (ExceptT.mk (e.reply <$> e.work client)) := by
  cases e with
  | listTenants =>
      exact noFault_render ⟨.tenants, fun _ => rfl, fun _ => rfl⟩ noFault_listTenants
  | getTenant id =>
      exact noFault_render ⟨.tenant, fun _ => rfl, fun _ => rfl⟩ (noFault_getTenant id)
  | createTenant config words t =>
      exact noFault_render ⟨.tenant, fun _ => rfl, fun _ => rfl⟩
        (noFault_createTenant config words t)
  | updateTenant id p =>
      exact noFault_render ⟨.tenant, fun _ => rfl, fun _ => rfl⟩ (noFault_updateTenant id p)
  | deleteTenant id =>
      exact noFault_render ⟨.nothing, fun _ => rfl, fun _ => rfl⟩ (noFault_ask (.deleteTenant id))
  | listClusters x q =>
      exact noFault_render ⟨.clusters, fun _ => rfl, fun _ => rfl⟩
        ((leads_listClusters hdated x q).mono (fun _ _ h => h) (fun _ _ _ => trivial))
  | getCluster x id =>
      exact noFault_render ⟨.cluster, fun _ => rfl, fun _ => rfl⟩ (noFault_getCluster hdated x id)
  | createCluster x c =>
      exact noFault_render ⟨.cluster, fun _ => rfl, fun _ => rfl⟩ (noFault_createCluster x c)
  | updateCluster x id p =>
      exact noFault_render ⟨.cluster, fun _ => rfl, fun _ => rfl⟩
        (noFault_updateCluster hs hdated x id p)
  | putCluster x id c =>
      exact noFault_render ⟨.put, fun _ => rfl, fun _ => rfl⟩ (noFault_putCluster hs hdated x id c)
  | deleteCluster id =>
      exact noFault_render ⟨.nothing, fun _ => rfl, fun _ => rfl⟩ (noFault_ask (.deleteCluster id))
  | reportCompilation id report =>
      exact noFault_render ⟨.nothing, fun _ => rfl, fun _ => rfl⟩
        (noFault_reportCompilation id report)
  | handshake q now => exact absurd rfl (hne q now)

/-- The refusal is not an internal error, or there is no client because of an outage. -/
def Blameless (w : World) (refusal : Refusal) : Prop :=
  refusal.status ≠ 500 ∨ ∃ error, refusal = .client error ∧ w.outage = some error

/-- A handshake is not refused with an internal error. -/
theorem status_ne_of_isRefused {q : Handshake.Request} {now : Instant} {m : Memory}
    {error : Handshake.HandshakeError} (h : q.IsRefused now m error) :
    (Refusal.handshake error).status ≠ 500 := by
  cases h with
  | missing | invalid | unusable => decide
  | noAccount => exact fun h => by cases h
  | conflicts => exact fun h => by cases h

theorem outage_of_ownClient {error : ClientError} {w' : World}
    (h : w.run Work.ownClient = (.error error, w')) : w.outage = some error := by
  have hown : w.run Work.ownClient = w.ownClient := rfl
  rw [hown] at h
  unfold World.ownClient at h
  split at h
  · cases h
  · rcases w.build_cases none with ⟨error', houtage, hbuilt⟩ | ⟨-, hbuilt⟩ <;> rw [hbuilt] at h
    · cases h
      exact houtage
    · cases h

theorem leads_install_noFault (hs : w.store.IsSound) (s : Setting) (r : Http.Request) :
    Leads w (fun refusal _ => Blameless w refusal) (fun response _ => response.status < 400)
      (serveAnyone s r .install) := by
  unfold serveAnyone
  refine Leads.bind (M := fun built w' => w.run Work.ownClient = (built, w'))
    (leads_lift rfl) ?_
  intro built w' hrun
  have hstore : w'.store = w.store := by
    have hown := Workshop.store_ownClient w
    have hrun' : w.ownClient = (built, w') := hrun
    rw [hrun'] at hown
    exact hown
  refine Leads.bind (M := fun _ w'' => w'' = w') (leads_mapError ?_ (fun _ _ => rfl)) ?_
  · rintro error rfl
    exact Or.inr ⟨error, rfl, outage_of_ownClient hrun⟩
  rintro client w'' rfl
  rw [← hstore] at hs
  refine Leads.bind (leads_result (leads_handshake hs client (handshakeOf s r) s.now)) ?_
  rintro result w₁ ⟨herror, -⟩
  refine Leads.bind (M := fun _ _ => True) (leads_mapError ?_ (fun _ _ => trivial)) ?_
  · intro error hresult
    exact Or.inl (status_ne_of_isRefused (herror error hresult).1)
  · intro v w₂ _
    exact leads_pure (Nat.le_of_ble_eq_true rfl)

/-- A request that asks for an errand is not refused with an internal error, unless there is no client
because of an outage. -/
theorem leads_authenticate_noFault (hs : w.store.IsSound) (hdated : w.store.IsDated)
    (he : errand? s r = some e) :
    Leads w (fun refusal _ => Blameless w refusal) (fun response _ => response.status < 400)
      (authenticate s r (Route.of? r.path)) := by
  by_cases hcaller : Access.of r.path = .caller
  · by_cases htoken : ∃ token, r.Presents token
    · obtain ⟨token, htoken⟩ := htoken
      refine leads_caller_of_run ⟨hcaller, htoken⟩ ?_ ?_
      · intro error w' hrun
        rcases clientFor_cases w token with ⟨_, _, hrun', -⟩ | ⟨_, _, hrun', -, houtage⟩ <;>
          rw [hrun'] at hrun <;> cases hrun
        exact Or.inr ⟨_, rfl, houtage⟩
      · intro client w' hrun
        have hstore := store_clientFor w token
        rw [hrun] at hstore
        rw [← hstore] at hs hdated
        rw [serve_of_errand? he hcaller]
        exact (noFault_work hs hdated client ((access_of_errand? he).1 hcaller)).mono
          (fun _ _ hrefused => Or.inl hrefused) (fun _ _ hdone => hdone)
    · rw [authenticate_missing s hcaller (fun token h => htoken ⟨token, h⟩)]
      exact leads_throw (Or.inl (by decide))
  · have hhandshake : ∃ q now, e = .handshake q now := by
      by_contra hother
      exact hcaller ((access_of_errand? he).2 (fun q now h => hother ⟨q, now, h⟩))
    obtain ⟨q, now, rfl⟩ := hhandshake
    obtain ⟨hpath, hmethod⟩ := install_of_errand? he
    rw [authenticate_install s hpath hmethod]
    exact leads_install_noFault hs s r

end Requests
end Service
end Fleet

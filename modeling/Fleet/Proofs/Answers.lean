import Fleet.Proofs.Json.Layout
import Fleet.Proofs.Service.Body
import Fleet.Proofs.Service.Cached
import Fleet.Proofs.Service.Sparing
import Fleet.Proofs.Store.Revisions

/-! # Responses tell what is stored

A request that writes a tenant or a cluster is answered with what was written.  On the way there the
object goes through one or two writes, of which the second may be skipped; but whatever the store
answers is what is stored then (`leads_ask_gave`), and the last answer is the one that is shown.  So
whoever asks for the object next is told the same, down to the URL that a cluster is installed from.

Main statement: `responses_tell_stored`. -/

namespace Fleet

open Credential Http Json Resource Service Store

/-! ### Objects -/

/-- The operation that shows the object of a kind. -/
def Store.Kind.getter : Kind → String → Operation
  | .tenant => .getTenant
  | .cluster => .getCluster

/-- The kind of the object that an operation writes and then shows. -/
def Http.Operation.written? : Operation → Option Kind
  | .createTenant | .updateTenant _ => some .tenant
  | .createCluster | .updateCluster _ | .putCluster _ => some .cluster
  | _ => none

theorem Http.method_ne_head {method : String} (h : method ∈ ["POST", "PATCH", "PUT"]) :
    method ≠ "HEAD" := by
  rintro rfl
  revert h
  decide

/-- Besides operations that write an object and show it, there are only reports. -/
theorem Http.Route.written?_of_method {route : Route} {method : String} {o : Operation}
    (hmethod : method ∈ ["POST", "PATCH", "PUT"]) (h : route.operation? method = some o) :
    o.written?.isSome ∨ ∃ raw, o = .reportCompilation raw := by
  have hall : ∀ e ∈ route.operations, e.1 ∈ ["POST", "PATCH", "PUT"] →
      e.2.written?.isSome ∨ ∃ raw, e.2 = .reportCompilation raw := by
    cases route <;> simp [Route.operations, Operation.written?]
  -- only HEAD is served as another method
  unfold Route.operation? at h
  rw [if_neg (method_ne_head hmethod)] at h
  obtain ⟨e, hfind, rfl⟩ := Option.map_eq_some_iff.1 h
  have hserved : e.1 = method := by simpa using List.find?_some hfind
  exact hall e (List.mem_of_find?_eq_some hfind) (hserved ▸ hmethod)

/-- Whatever is posted, patched or put is a caller's. -/
theorem Http.Operation.access_of_written {o : Operation}
    (h : o.written?.isSome ∨ ∃ raw, o = .reportCompilation raw) : o.access = .caller := by
  rcases h with hwritten | ⟨raw, rfl⟩
  · cases o with
    | health | metrics | install => cases hwritten
    | _ => rfl
  · rfl

/-- The value is an object that gives an identifier as its own. -/
def Json.Value.Names (v : Value) (id : String) : Prop :=
  ∃ d : Dict Value, v = .ofDict d ∧ d.get? "id" = some (.string id)

/-- There is one identifier that an object gives. -/
theorem Json.Value.Names.eq {v : Value} {id id' : String} (h : v.Names id) (h' : v.Names id') :
    id = id' := by
  obtain ⟨d, rfl, hid⟩ := h
  obtain ⟨d', hsame, hid'⟩ := h'
  have hget : d.get? "id" = d'.get? "id" :=
    congrArg (Dict.lookupIn "id") (Value.object.inj hsame)
  rw [hid, hid'] at hget
  exact Value.string.inj (Option.some.inj hget)

theorem Json.Layout.names_encode {ρ : Type} {l : Layout ρ} (hremainder : l.remainder = none)
    (hdistinct : (l.allFields.map (·.key)).Nodup) {f : Field ρ} (hf : f ∈ l.allFields)
    (hkey : f.key = "id") {r : ρ} {id : String} (hid : f.encode (f.get r) = some (.string id)) :
    (l.encode r).Names id := by
  refine ⟨_, encode_eq hremainder r, ?_⟩
  rw [← hkey, get?_members hdistinct hf, hid]

namespace Service

/-- What a client is shown of the object of a kind that is stored under an identifier. -/
def Shows (base : String) (now : Instant) (m : Memory) (id : String) : Kind → Value → Prop
  | .tenant, v => ∃ t, m.tenants.get? id = some t ∧
      v = Record.Tenant.layout.encode (Exchange.Tenant.toRecord t)
  | .cluster, v => ∃ c record, m.clusters.get? id = some c ∧
      Clusters.show? base now c = .ok record ∧ v = Record.Cluster.layout.encode record

section Shows

variable {base : String} {now : Instant} {m : Memory} {id : String} {v : Value}

theorem id_of_show? {c : Cluster} {record : Record.Cluster}
    (h : Clusters.show? base now c = .ok record) : record.id = c.name := by
  obtain ⟨shown, hshown, h⟩ := Result.exists_of_bind h
  cases h
  obtain ⟨report, -, hshown⟩ := Result.exists_of_bind hshown
  cases hshown
  rfl

/-- What is shown names the object that is stored. -/
theorem Shows.names {kind : Kind} (h : Shows base now m id kind v) (hs : m.IsSound) : v.Names id := by
  cases kind with
  | tenant =>
      obtain ⟨t, hget, rfl⟩ := h
      have hname : t.name = id := hs.tenants.named id t hget
      exact Layout.names_encode rfl (by decide) List.mem_cons_self rfl
        (congrArg (fun id => some (Value.string id)) hname)
  | cluster =>
      obtain ⟨c, record, hget, hrecord, rfl⟩ := h
      have hname : record.id = id := (id_of_show? hrecord).trans (hs.clusters.named id c hget)
      exact Layout.names_encode rfl (by decide) List.mem_cons_self rfl
        (congrArg (fun id => some (Value.string id)) hname)

end Shows

/-! ### Writes -/

/-- The refusal has the status of one. -/
def Refuses (r : Refusal) (_ : World) : Prop := 400 ≤ r.status

/-- What a call gave is what is stored. -/
structure Gave (c : Call) (a : c.Result) (m : Memory) : Prop where
  isSound : m.IsSound
  tenants : ∀ t ∈ c.tenants (.ok a), m.tenants.get? t.name = some t
  clusters : ∀ k ∈ c.clusters (.ok a), m.clusters.get? k.name = some k

section Writes

variable {w : World} {client : Client} {x : Clusters.Context}

theorem leads_ask_gave (hs : w.store.IsSound) (c : Call) :
    Leads w Refuses (fun a w' => Gave c a w'.store) (Task.ask client c) := by
  refine leads_ask (fun _ herror => status_of_answer_error herror) (fun a ha => ?_)
  exact {
    isSound := hs.steps (Memory.steps_answer hs c)
    tenants := fun t ht => Memory.get?_of_mem_tenants hs c (ha ▸ ht)
    clusters := fun k hk => Memory.get?_of_mem_clusters hs c (ha ▸ hk) }

/-- A change is worked out apart from the store. -/
theorem leads_changed {α : Type} (r : Except Exchange.ChangeError α) :
    Leads w Refuses (fun _ w' => w' = w) (Task.of .change r) :=
  leads_mapError (fun e _ => status_of_change e) (fun _ _ => rfl)

/-! #### Tenants -/

/-- The tenant is shown as it is stored. -/
def ShowsTenant (record : Record.Tenant) (w : World) : Prop :=
  w.store.IsSound ∧ ∃ t, w.store.tenants.get? t.name = some t ∧ record = Exchange.Tenant.toRecord t

theorem leads_written_tenant (hs : w.store.IsSound) {c : Call} {f : c.Result → Tenant}
    (hgives : ∀ a, c.tenants (.ok a) = [f a]) :
    Leads w Refuses ShowsTenant (Task.ask client c >>= fun a =>
      pure (Exchange.Tenant.toRecord (f a))) := by
  refine (leads_ask_gave hs c).bind ?_
  intro a w' hgave
  refine leads_pure ⟨hgave.isSound, f a, hgave.tenants _ ?_, rfl⟩
  rw [hgives]
  exact List.mem_singleton_self _

theorem shows_createTenant (hs : w.store.IsSound) (config : Config) (words : Words)
    (record : Record.Tenant) :
    Leads w Refuses ShowsTenant (Tenants.create config words client record) := by
  unfold Tenants.create
  refine (leads_changed _).bind ?_
  rintro tenant w' rfl
  exact leads_written_tenant hs (c := .createTenant tenant) (f := fun t => t) (fun _ => rfl)

theorem shows_updateTenant (hs : w.store.IsSound) (id : String) (p : Record.TenantProperties) :
    Leads w Refuses ShowsTenant (Tenants.update client id p) := by
  unfold Tenants.update
  refine (leads_ask_gave hs (.getTenant id)).bind ?_
  intro found w' hgave
  refine (leads_changed _).bind ?_
  rintro tenant w'' rfl
  exact leads_written_tenant hgave.isSound (c := .updateTenant tenant) (f := fun t => t)
    (fun _ => rfl)

/-! #### Clusters -/

/-- The cluster is stored as it is. -/
def HoldsCluster (c : Cluster) (w : World) : Prop :=
  w.store.IsSound ∧ w.store.clusters.get? c.name = some c

/-- The cluster is shown as it is stored. -/
def ShowsCluster (base : String) (now : Instant) (record : Record.Cluster) (w : World) : Prop :=
  ∃ c, HoldsCluster c w ∧ Clusters.show? base now c = .ok record

theorem leads_written_cluster (hs : w.store.IsSound) {c : Call} {f : c.Result → Cluster}
    (hgives : ∀ a, c.clusters (.ok a) = [f a]) :
    Leads w Refuses (fun a w' => HoldsCluster (f a) w') (Task.ask client c) := by
  refine (leads_ask_gave hs c).mono (fun _ _ h => h) ?_
  intro a w' hgave
  refine ⟨hgave.isSound, hgave.clusters _ ?_⟩
  rw [hgives]
  exact List.mem_singleton_self _

/-- The second write gives what is stored, also if there is none. -/
theorem holds_writeStatus {written : Cluster} (h : HoldsCluster written w)
    (status : Option ClusterStatus) :
    Leads w Refuses HoldsCluster (Clusters.writeStatus client written status) := by
  by_cases hsame : status.isNone ∨ written.status = status
  · rw [Errand.writeStatus_of_same hsame]
    exact leads_pure h
  · rw [Errand.writeStatus_of_other hsame]
    exact leads_written_cluster h.1 (c := .updateClusterStatus { written with status := status })
      (f := fun c => c) (fun _ => rfl)

theorem holds_store (hs : w.store.IsSound) (given : Cluster) :
    Leads w Refuses HoldsCluster (Clusters.store x client given) := by
  unfold Clusters.store
  refine (leads_written_cluster hs (c := .createCluster _) (f := fun c => c)
    (fun _ => rfl)).bind ?_
  intro created w' hholds
  exact holds_writeStatus hholds _

theorem shows_render {c : Cluster} (h : HoldsCluster c w) :
    Leads w Refuses (ShowsCluster x.base x.now) (Clusters.render x c) :=
  leads_mapError (fun e _ => status_of_change e) (fun _ hrecord => ⟨c, h, hrecord⟩)

theorem leads_prepared (record : Record.Cluster) :
    Leads w Refuses (fun _ w' => w' = w) (liftM (Clusters.prepare x record) : Task Cluster) :=
  (Errand.leads_prepare (e := .listTenants)).mono (fun _ _ hspares => hspares.refused)
    (fun _ _ hdone => hdone.2)

theorem shows_createCluster (hs : w.store.IsSound) (record : Record.Cluster) :
    Leads w Refuses (ShowsCluster x.base x.now) (Clusters.create x client record) := by
  unfold Clusters.create
  refine (leads_prepared record).bind ?_
  rintro given w' rfl
  refine (holds_store hs given).bind ?_
  intro created w' hholds
  exact shows_render hholds

theorem shows_updateCluster (hs : w.store.IsSound) (id : String) (p : Record.ClusterProperties) :
    Leads w Refuses (ShowsCluster x.base x.now) (Clusters.update x client id p) := by
  unfold Clusters.update
  refine (leads_ask_gave hs (.getCluster id)).bind ?_
  intro found w' hgave
  refine (leads_changed _).bind ?_
  rintro changed w'' rfl
  refine (leads_written_cluster hgave.isSound (c := .updateCluster changed) (f := fun c => c)
    (fun _ => rfl)).bind ?_
  intro updated w₁ hholds
  refine (holds_writeStatus hholds changed.status).bind ?_
  intro stored w₂ hholds
  exact shows_render hholds

theorem shows_putCluster (hs : w.store.IsSound) (id : String) (record : Record.Cluster) :
    Leads w Refuses (fun put w' => ShowsCluster x.base x.now put.2 w')
      (Clusters.put x client id record) := by
  unfold Clusters.put
  refine (leads_prepared { record with id := id }).bind ?_
  rintro given w' rfl
  refine Leads.bind (M := fun found w'' => found = (w'.store.answer (.getCluster given.name)).1 ∧
    w'' = w') (leads_lift ⟨rfl, rfl⟩) ?_
  rintro found w'' ⟨hfound, rfl⟩
  -- a cluster that is there is written once, a new one like any other that is created
  cases found with
  | ok found =>
      refine (leads_written_cluster hs (c := .updateCluster _) (f := fun c => c)
        (fun _ => rfl)).bind ?_
      intro updated w'' hholds
      refine (shows_render hholds).bind ?_
      intro shown w₁ hshows
      exact leads_pure hshows
  | error e =>
      dsimp only
      split
      · refine (holds_store hs given).bind ?_
        intro created w'' hholds
        refine (shows_render hholds).bind ?_
        intro shown w₁ hshows
        exact leads_pure hshows
      · exact leads_throw (status_of_answer_error hfound.symm)

end Writes

/-! ### Requests -/

/-- The response, if the operation is done and something is shown, shows an object as it is stored. -/
def ShowsStored (s : Setting) (r : Http.Request) (o : Operation) (response : Response) (w : World) :
    Prop :=
  response.status = 200 ∨ response.status = 201 → ∃ kind id v, o.written? = some kind ∧
    response.body = .json v ∧ w.store.IsSound ∧ Shows (baseUrl r) s.now w.store id kind v

section Requests

variable {w : World} {s : Setting} {r : Http.Request} {o : Operation} {client : Client}

theorem showsStored_other {response : Response} (h : response.status ≠ 200)
    (h' : response.status ≠ 201) : ShowsStored s r o response w := by
  rintro (hstatus | hstatus)
  · exact absurd hstatus h
  · exact absurd hstatus h'

theorem showsStored_tenant {record : Record.Tenant} (ho : o.written? = some .tenant)
    (h : ShowsTenant record w) (status : Nat) :
    ShowsStored s r o (tenantResponse status record) w := by
  obtain ⟨hs, t, hget, rfl⟩ := h
  exact fun _ => ⟨.tenant, t.name, _, ho, rfl, hs, t, hget, rfl⟩

theorem showsStored_cluster {record : Record.Cluster} (ho : o.written? = some .cluster)
    (h : ShowsCluster (baseUrl r) s.now record w) (status : Nat) :
    ShowsStored s r o (clusterResponse status record) w := by
  obtain ⟨c, ⟨hs, hget⟩, hrecord⟩ := h
  exact fun _ => ⟨.cluster, c.name, _, ho, rfl, hs, c, record, hget, hrecord, rfl⟩

theorem leads_withId {raw : String} {f : String → Task Response}
    (h : ∀ id, Leads w Refuses (ShowsStored s r o) (f id)) :
    Leads w Refuses (ShowsStored s r o) (withId raw f) := by
  unfold withId
  cases pathId? raw with
  | none =>
      exact leads_pure (showsStored_other (by decide : 400 ≠ 200) (by decide : 400 ≠ 201))
  | some id => exact h id

theorem leads_withBody {f : List UInt8 → Task Response}
    (h : ∀ body, Leads w Refuses (ShowsStored s r o) (f body)) :
    Leads w Refuses (ShowsStored s r o) (withBody r f) := by
  unfold withBody
  cases receivedBody? r with
  | none =>
      exact leads_pure (showsStored_other (by decide : 413 ≠ 200) (by decide : 413 ≠ 201))
  | some body => exact h body

/-- What a body says is read apart from the store. -/
theorem leads_readBody {α : Type} (decode : Decoder α) (body : List UInt8) :
    Leads w Refuses (fun _ w' => w' = w) (liftM (readBody decode body) : Task α) :=
  leads_except (fun _ he => Nat.le_of_eq (status_of_readBody he).symm) (fun _ _ => rfl)

theorem leads_readStrict {ρ : Type} (l : Layout ρ) (body : List UInt8) :
    Leads w Refuses (fun _ w' => w' = w) (liftM (readStrict l body) : Task ρ) :=
  leads_except (fun _ he => Nat.le_of_eq (status_of_readStrict he).symm) (fun _ _ => rfl)

/-- What a request says is read, something is done with it, and what comes of that is rendered. -/
theorem leads_rendered {α β : Type} {read : Task α} {t : α → Task β} {f : β → Response}
    {D : β → World → Prop} (hread : Leads w Refuses (fun _ w' => w' = w) read)
    (ht : ∀ a, Leads w Refuses D (t a)) (hf : ∀ b w', D b w' → ShowsStored s r o (f b) w') :
    Leads w Refuses (ShowsStored s r o) (read >>= fun a => t a >>= fun b => pure (f b)) := by
  refine hread.bind ?_
  rintro a w' rfl
  refine (ht a).bind ?_
  intro b w'' hdone
  exact leads_pure (hf b w'' hdone)

theorem showsStored_serveCaller (hs : w.store.IsSound)
    (ho : o.written?.isSome ∨ ∃ raw, o = .reportCompilation raw) :
    Leads w Refuses (ShowsStored s r o) (serveCaller s r client o) := by
  cases o with
  | createTenant =>
      refine leads_withBody (fun body => ?_)
      exact leads_rendered (leads_readBody _ _) (shows_createTenant hs s.config s.words)
        (fun _ _ hshows => showsStored_tenant rfl hshows 201)
  | updateTenant raw =>
      refine leads_withId (fun id => leads_withBody (fun body => ?_))
      exact leads_rendered (leads_readStrict _ _) (shows_updateTenant hs id)
        (fun _ _ hshows => showsStored_tenant rfl hshows 200)
  | createCluster =>
      refine leads_withBody (fun body => ?_)
      exact leads_rendered (leads_readBody _ _) (shows_createCluster hs)
        (fun _ _ hshows => showsStored_cluster rfl hshows 201)
  | updateCluster raw =>
      refine leads_withId (fun id => leads_withBody (fun body => ?_))
      exact leads_rendered (leads_readStrict _ _) (shows_updateCluster hs id)
        (fun _ _ hshows => showsStored_cluster rfl hshows 200)
  | putCluster raw =>
      refine leads_withId (fun id => leads_withBody (fun body => ?_))
      exact leads_rendered (leads_readBody _ _) (shows_putCluster hs id)
        (fun _ _ hshows => showsStored_cluster rfl hshows _)
  | reportCompilation raw =>
      -- a report that is taken is answered 204
      refine leads_withId (fun id => leads_withBody (fun body => ?_))
      refine leads_rendered (D := fun _ _ => True) (leads_readBody _ _) (fun report => ?_)
        (fun _ _ _ => showsStored_other (by decide : 204 ≠ 200) (by decide : 204 ≠ 201))
      exact (Errand.isSparing_reportCompilation id report).mono (fun _ _ hspares => hspares.refused)
        (fun _ _ _ => trivial)
  | health | metrics | install | listTenants | getTenant | deleteTenant | listClusters | getCluster
  | deleteCluster =>
      rcases ho with hnone | ⟨_, hreport⟩
      · cases hnone
      · cases hreport

/-! #### Asking again -/

theorem leads_foundTenant {id : String} {t : Tenant} (hget : w.store.tenants.get? id = some t) :
    Leads w (fun _ _ => False) (fun found _ => found = t) (Task.ask client (.getTenant id)) := by
  have hanswer : (w.store.answer (.getTenant id)).1 = .ok t := by
    simp only [Memory.answer, hget]
    rfl
  refine leads_ask (c := .getTenant id) (fun e herror => ?_) (fun found hfound => ?_)
  · rw [hanswer] at herror
    cases herror
  · rw [hanswer] at hfound
    cases hfound
    rfl

/-- Who asks for a stored object is shown it. -/
theorem leads_getter {kind : Kind} {id : String} {v : Value} (hasks : Asks r kind.getter id)
    (h : Shows (baseUrl r) s.now w.store id kind v) :
    Leads w (fun _ _ => False) (fun response _ => response = .json 200 v)
      (Service.serve s r (Route.of? r.path) (some client)) := by
  obtain ⟨raw, hid, hserve⟩ := hasks.serve s
  rw [hserve]
  cases kind with
  | tenant =>
      obtain ⟨t, hget, rfl⟩ := h
      dsimp only [Kind.getter, serveCaller, withId]
      rw [hid]
      unfold Tenants.get
      refine Leads.bind (Leads.bind (leads_foundTenant hget)
        (L := fun record _ => record = Exchange.Tenant.toRecord t) ?_) ?_
      · rintro found w' rfl
        exact leads_pure rfl
      · rintro shown w' rfl
        exact leads_pure rfl
  | cluster =>
      obtain ⟨c, record, hget, hrecord, rfl⟩ := h
      dsimp only [Kind.getter, serveCaller, withId]
      rw [hid]
      unfold Clusters.get
      refine Leads.bind (Leads.bind (leads_found hget) (L := fun shown _ => shown = record) ?_) ?_
      · rintro found w' ⟨rfl, rfl⟩
        unfold Clusters.render
        rw [hrecord]
        exact leads_pure rfl
      · rintro shown w' rfl
        exact leads_pure rfl

end Requests

section Again

variable {w : World} {s s' : Setting} {r r' : Http.Request} {kind : Kind} {id token : String}
  {v : Value}

theorem header?_congr (h : r'.headers = r.headers) (name : String) :
    r'.header? name = r.header? name := by
  unfold Http.Request.header?
  rw [h]

theorem baseUrl_congr (h : r'.headers = r.headers) : baseUrl r' = baseUrl r := by
  unfold baseUrl
  rw [header?_congr h, header?_congr h]

theorem access_getter (hasks : Asks r kind.getter id) : Access.of r.path = .caller := by
  refine hasks.access (fun raw => ?_)
  cases kind <;> rfl

/-- A caller who has a client gets what is stored. -/
theorem respond_getter (hacts : r.ActsAs (some token)) (hclient : w.HasClient token)
    (hmethod : r.method = "GET") (hasks : Asks r kind.getter id)
    (h : Shows (baseUrl r) s.now w.store id kind v) :
    (w.run (respond s r)).1.status = 200 ∧ (w.run (respond s r)).1.body = .json v := by
  have hends := (leads_client hacts hclient
    (fun _ _ hstore => leads_getter hasks (hstore.symm ▸ h))).respond
  rcases hends with ⟨_, hfalse, -⟩ | ⟨_, rfl, hresponse⟩
  · exact hfalse.elim
  · have hhead : r.method ≠ "HEAD" := by
      rw [hmethod]
      decide
    rw [hresponse]
    exact ⟨rfl, if_neg hhead⟩

/-- The response of a caller whose operation is done shows what is stored. -/
theorem showsStored_respond {route : Route} {o : Operation} (hs : w.store.IsSound)
    (hroute : Route.of? r.path = some route) (ho : route.operation? r.method = some o)
    (hmethod : r.method ∈ ["POST", "PATCH", "PUT"]) (hacts : r.ActsAs (some token))
    (hdone : (w.run (respond s r)).1.status < 400) :
    ShowsStored s r o (w.run (respond s r)).1 (w.run (respond s r)).2 := by
  have hserve : ∀ client w', w'.store = w.store →
      Leads w' Refuses (ShowsStored s r o) (Service.serve s r (Route.of? r.path) (some client)) := by
    intro client w' hstore
    rw [serve_of_operation? hroute ho]
    exact showsStored_serveCaller (hstore ▸ hs) (Route.written?_of_method hmethod ho)
  have hends := (leads_caller hacts (fun _ _ _ _ => (by decide : 400 ≤ 500)) hserve).respond
  rcases hends with ⟨e, hrefused, hresponse⟩ | ⟨response, hshows, hresponse⟩
  · rw [hresponse] at hdone
    exact absurd hdone (Nat.not_lt.2 hrefused)
  · rw [hresponse]
    intro hstatus
    obtain ⟨kind, id, v, hkind, hbody, hshown⟩ := hshows hstatus
    exact ⟨kind, id, v, hkind, (if_neg (method_ne_head hmethod)).trans hbody, hshown⟩

end Again
end Service

/-! ### Result -/

/-- A request that posts, patches or puts something and is answered 200 or 201 is told the object as it
is stored then.  Whoever gets that object next, with the same headers and at the same instant, is told
the same. -/
theorem responses_tell_stored {w : World} (hbuilt : w.store.Built) {s : Setting} {r : Http.Request}
    (hmethod : r.method ∈ ["POST", "PATCH", "PUT"])
    (hdone : (w.run (respond s r)).1.status = 200 ∨ (w.run (respond s r)).1.status = 201) :
    let answer := w.run (respond s r)
    ∃ route o kind id v, Route.of? r.path = some route ∧ route.operation? r.method = some o ∧
      o.written? = some kind ∧ answer.1.body = .json v ∧ v.Names id ∧
      Shows (baseUrl r) s.now answer.2.store id kind v ∧
      ∀ (s' : Setting) (r' : Http.Request), s'.now = s.now → r'.method = "GET" →
        r'.headers = r.headers → Asks r' kind.getter id →
        (answer.2.run (respond s' r')).1.status = 200 ∧
          (answer.2.run (respond s' r')).1.body = answer.1.body := by
  intro answer
  have hless : answer.1.status < 400 := by rcases hdone with h | h <;> rw [h] <;> decide
  obtain ⟨route, o, hroute, ho⟩ := exists_operation hless
  have hcaller : Access.of r.path = .caller := by
    rw [Route.access_of_route hroute, ← Route.access_of_operation? ho]
    exact Operation.access_of_written (Route.written?_of_method hmethod ho)
  obtain ⟨token, hacts⟩ := exists_actsAs hcaller hless
  obtain ⟨kind, id, v, hkind, hv, hs, hshown⟩ :=
    showsStored_respond hbuilt.isSound hroute ho hmethod hacts hless hdone
  refine ⟨route, o, kind, id, v, hroute, ho, hkind, hv, hshown.names hs, hshown, ?_⟩
  intro s' r' hnow hget hheaders hasks
  have hacts' : r'.ActsAs (some token) :=
    ⟨access_getter hasks, Http.Request.presents_iff.2
      ((congrArg bearerToken? (header?_congr hheaders _)).trans
        (Http.Request.presents_iff.1 hacts.2))⟩
  rw [hv]
  refine respond_getter hacts' (Or.inl (hasClient_respond hacts hless)) hget hasks ?_
  rwa [baseUrl_congr hheaders, hnow]

/-! #### A cluster that waits for its manifests -/

namespace Service.Renaming

/-- The cluster has a bootstrap token that was not used yet. -/
def cluster : Cluster where
  metadata := { name := some "c-1" }
  spec := { tenantRef := ⟨"t-1"⟩ }
  status := some { bootstrapToken := some ⟨"abc", true, ⟨4102444800, 0⟩⟩ }

def world : World :=
  { World.empty "fleet" 1 with store := (Memory.writeCluster { ns := "fleet" } cluster).2 }

def setting : Setting := ⟨{}, ⟨0, 0⟩, fun _ => 0⟩

/-- The cluster gets a name, and nodes are observed. -/
def change : Http.Request where
  method := "PATCH"
  path := "/clusters/c-1"
  headers := [("host", "fleet.example"), ("authorization", "Bearer abc")]
  body := Text.encode (Value.object [("displayName", .string "Blue"),
    ("dynamicFacts", .object [("nodes", .ofInt 3)])]).render

/-- The same caller asks for the cluster. -/
def question : Http.Request where
  method := "GET"
  path := "/clusters/c-1"
  headers := change.headers

/-- What is told of the cluster. -/
def told : Dict Value := .ofList [
  ("id", .string "c-1"), ("tenant", .string "t-1"), ("displayName", .string "Blue"),
  ("dynamicFacts", .object [("nodes", .ofInt 3)]),
  ("installURL", .string "http://fleet.example/install/steward.json?token=abc")]

theorem responses_tell_stored_named : world.store.Built ∧
    (world.run (respond setting change)).1.status = 200 ∧
    (world.run (respond setting change)).1.body = .json (.ofDict told) ∧
    ((world.run (respond setting change)).2.run (respond setting question)).1.status = 200 ∧
    ((world.run (respond setting change)).2.run (respond setting question)).1.body =
      .json (.ofDict told) := by
  have hbuilt : world.store.Built := .writeCluster _ (.empty "fleet")
  have hstatus : (world.run (respond setting change)).1.status = 200 := by decide +kernel
  have hbody : (world.run (respond setting change)).1.body = .json (.ofDict told) := by
    decide +kernel
  have hroute : Route.of? change.path = some (.cluster "c-1") := by decide
  have ho : (Route.cluster "c-1").operation? change.method = some (.updateCluster "c-1") := by decide
  have hasks : Asks question Kind.cluster.getter "c-1" :=
    ⟨.cluster "c-1", "c-1", by decide, by decide, by decide +kernel⟩
  have hnames : (Value.ofDict told).Names "c-1" := ⟨told, rfl, by decide⟩
  obtain ⟨route, o, kind, id, v, hroute', ho', hkind, hv, hid, -, hagain⟩ :=
    responses_tell_stored hbuilt (s := setting) (r := change) (by decide) (Or.inl hstatus)
  rw [hroute] at hroute'
  cases hroute'
  rw [ho] at ho'
  cases ho'
  cases hkind
  rw [hbody] at hv hagain
  cases hv
  obtain rfl := hid.eq hnames
  exact ⟨hbuilt, hstatus, hbody, hagain setting question rfl rfl rfl hasks⟩

end Service.Renaming
end Fleet

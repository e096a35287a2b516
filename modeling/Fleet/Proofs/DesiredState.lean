import Fleet.Proofs.Replacement
import Fleet.Proofs.Service.Body

/-! # What is put is what is stored

A client puts a cluster under an identifier.  If the cluster is there, then what is stored of it is
the desired state that the request describes, and nothing of the one before; what is observed of it,
its other labels, and every other object stay.  If it is not there, then the request is one to
create it: it is answered, and it leaves everything, as a request that creates this very cluster
(`put_desired_state`). -/

namespace Fleet

open Credential Http Json Resource Service Store

namespace Service

/-! ### Requests -/

/-- The request puts a cluster under an identifier, whatever else it says. -/
def PutsUnder (r : Http.Request) (id : String) : Prop :=
  ∃ route raw, Route.of? r.path = some route ∧ route.operation? r.method = some (.putCluster raw) ∧
    pathId? raw = some id

/-- The second request asks to create the cluster that the first one puts under an identifier. -/
structure CreatesSame (id : String) (r r' : Http.Request) : Prop where
  method : r'.method = "POST"
  path : r'.path = "/clusters"
  headers : r'.headers = r.headers
  /-- Either both bodies are received, or both are too long. -/
  received : r'.body.length ≤ bodyLimit ↔ r.body.length ≤ bodyLimit
  /-- The bodies say the same, but for the identifier. -/
  body : readBody Record.Cluster.layout.decode r'.body =
    (readBody Record.Cluster.layout.decode r.body).map (fun c => { c with id := id })

/-- What is stored of a cluster that was found, after its desired state was replaced. -/
structure IsReplaced (m : Memory) (found given stored : Cluster) : Prop where
  spec : stored.spec = given.spec
  annotations : stored.metadata.annotations = given.metadata.annotations
  status : stored.status = found.status
  labels : ∀ key, stored.metadata.labels.bind (·.get? key) =
    if key = Cluster.tenantLabel then some given.spec.tenantRef.name
    else found.metadata.labels.bind (·.get? key)
  /-- The rest of the metadata stays, but for what the store sets itself. -/
  metadata : stored.metadata = { found.metadata with
    annotations := stored.metadata.annotations
    labels := stored.metadata.labels
    ns := some m.ns
    revision := some (toString (m.revision + 1)) }

section Requests

variable {w : World} {s : Setting} {r r' : Http.Request} {id name : String}

/-- What requests on clusters depend on. -/
def contextOf (s : Setting) (r : Http.Request) : Clusters.Context :=
  ⟨s.config, baseUrl r, s.now, s.words⟩

theorem PutsUnder.asks (h : PutsUnder r id) : Asks r .putCluster id := h

theorem PutsUnder.access (h : PutsUnder r id) : Access.of r.path = .caller :=
  h.asks.access (fun _ => rfl)

/-- A path does not write the empty identifier, so nothing is drawn. -/
theorem PutsUnder.id_ne (h : PutsUnder r id) : id ≠ "" := by
  obtain ⟨route, raw, hroute, ho, hid⟩ := h
  exact ne_empty_of_pathId? hid (ne_empty_of_put hroute ho)

/-- The request is served by putting the cluster of its body. -/
theorem PutsUnder.serve (h : PutsUnder r id) (hreceived : r.body.length ≤ bodyLimit) (s : Setting)
    (client : Client) :
    Service.serve s r (Route.of? r.path) (some client) = (do
      let c ← (readBody Record.Cluster.layout.decode r.body : Except Refusal Record.Cluster)
      let put ← Clusters.put (contextOf s r) client id c
      return clusterResponse (if put.1 then 201 else 200) put.2) := by
  obtain ⟨raw, hid, hserve⟩ := h.asks.serve s
  rw [hserve]
  dsimp only [serveCaller, withId, withBody]
  rw [hid, receivedBody?_of_le hreceived]
  rfl

/-- A body that is too long is not looked at. -/
theorem PutsUnder.serve_tooLong (h : PutsUnder r id) (hlong : bodyLimit < r.body.length) (s : Setting)
    (client : Client) : Service.serve s r (Route.of? r.path) (some client) = pure tooLong := by
  obtain ⟨raw, hid, hserve⟩ := h.asks.serve s
  rw [hserve]
  exact serveCaller_tooLong (o := .putCluster raw) (Option.isSome_iff_exists.2 ⟨id, hid⟩) hlong client

/-! ### A cluster that is there -/

theorem isReplaced_writeCluster (m : Memory) (found given : Cluster) :
    IsReplaced m found given (m.writeCluster (Clusters.replaceBy found given)).1 := by
  refine ⟨rfl, rfl, rfl, ?_, rfl⟩
  intro key
  have hlabels : (m.writeCluster (Clusters.replaceBy found given)).1.metadata.labels =
      some ((found.metadata.labels.getD .empty).insert Cluster.tenantLabel
        given.spec.tenantRef.name) := rfl
  rw [hlabels, Option.bind_some, Dict.get?_insert]
  by_cases hkey : key = Cluster.tenantLabel
  · rw [if_pos hkey, if_pos hkey.symm]
  · rw [if_neg hkey, if_neg (Ne.symm hkey)]
    cases found.metadata.labels <;> rfl

/-- The request has replaced the cluster that it found under a name. -/
def Replaces (s : Setting) (r : Http.Request) (id name : String) (m : Memory) (found : Cluster)
    (m' : Memory) : Prop :=
  ∃ record given, readBody Record.Cluster.layout.decode r.body = .ok record ∧
    Clusters.prepare (contextOf s r) { record with id := id } = .ok given ∧ given.name = name ∧
    m' = (m.writeCluster (Clusters.replaceBy found given)).2

/-- A request that finds its cluster replaces it, or is refused. -/
theorem PutsUnder.leads_found (h : PutsUnder r id) (hreceived : r.body.length ≤ bodyLimit)
    (hs : w.store.IsSound)
    (hname : drawn s.words (Ident.normalize id Ident.clusterStart) = .ok name) {found : Cluster}
    (hget : w.store.clusters.get? name = some found) (client : Client) :
    Leads w (fun e _ => 400 ≤ e.status)
      (fun _ w' => Replaces s r id name w.store found w'.store)
      (Service.serve s r (Route.of? r.path) (some client)) := by
  rw [h.serve hreceived]
  refine Leads.bind (M := fun record w' =>
    readBody Record.Cluster.layout.decode r.body = .ok record ∧ w' = w)
    (leads_except (fun e he => Nat.le_of_eq (status_of_readBody he).symm)
      (fun _ hread => ⟨hread, rfl⟩)) ?_
  rintro record w' ⟨hread, rfl⟩
  cases hgiven : Clusters.prepare (contextOf s r) { record with id := id } with
  | error e =>
      refine Leads.bind (M := fun _ _ => False) ?_ (fun _ _ hfalse => hfalse.elim)
      unfold Clusters.put
      refine Leads.bind ((Errand.leads_prepare (e := .listTenants)).mono
        (fun _ _ hspares => hspares.refused) (fun _ _ hdone => hdone)) ?_
      rintro given w'' ⟨hprepared, -⟩
      rw [hgiven] at hprepared
      cases hprepared
  | ok given =>
      have hgivenName : given.name = name :=
        Except.ok.inj ((name_of_prepare hgiven).symm.trans hname)
      rw [← hgivenName] at hget
      refine Leads.bind ((Errand.leads_put_over hgiven hget (hs.clusters.named _ found hget)).mono
        ?_ (fun _ _ hdone => hdone)) ?_
      · rintro e w'' ⟨error, rfl, -, -⟩
        exact status_of_change error
      · rintro put w'' ⟨-, -, hstore⟩
        exact leads_pure ⟨record, given, hread, hgiven, hgivenName, hstore⟩

/-- A request that finds its cluster and is answered 200 has replaced it. -/
theorem PutsUnder.replaces (h : PutsUnder r id) (hs : w.store.IsSound)
    (hname : drawn s.words (Ident.normalize id Ident.clusterStart) = .ok name) {found : Cluster}
    (hget : w.store.clusters.get? name = some found) (hdone : (w.run (respond s r)).1.status = 200) :
    Replaces s r id name w.store found (w.run (respond s r)).2.store := by
  obtain ⟨token, hacts⟩ := exists_actsAs h.access (hdone ▸ (by decide : 200 < 400))
  have hends := Leads.respond (leads_caller hacts (R := fun e _ => 400 ≤ e.status)
    (D := fun response w' => response.status = 200 → Replaces s r id name w.store found w'.store)
    (fun error _ _ _ => (by decide : 400 ≤ 500)) (by
      intro client w' hstore
      rcases Nat.lt_or_ge bodyLimit r.body.length with hlong | hreceived
      · rw [h.serve_tooLong hlong]
        exact leads_pure (fun hstatus => by cases hstatus)
      · have hserved := h.leads_found hreceived (hstore ▸ hs) hname (hstore ▸ hget) client
        exact hserved.mono (fun _ _ hrefused => hrefused) (fun _ _ hreplaces _ => hstore ▸ hreplaces)))
  rcases hends with ⟨e, hrefused, hresponse⟩ | ⟨response, hreplaces, hresponse⟩
  · rw [hresponse] at hdone
    have hstatus : e.status = 200 := hdone
    omega
  · rw [hresponse] at hdone
    exact hreplaces hdone

/-! ### A cluster that is not there -/

theorem PutsUnder.method_ne (h : PutsUnder r id) : r.method ≠ "HEAD" := by
  obtain ⟨route, raw, -, ho, -⟩ := h
  intro hmethod
  rw [hmethod] at ho
  have hall : ∀ e ∈ route.operations, e.1 = "GET" → e.2 ≠ .putCluster raw := by
    cases route <;> simp [Route.operations]
  obtain ⟨e, hfind, he⟩ := Option.map_eq_some_iff.1 ho
  have hget := List.find?_some hfind
  rw [if_pos rfl, beq_iff_eq] at hget
  exact hall e (List.mem_of_find?_eq_some hfind) hget he

/-- A cluster that is not there is stored like a new one. -/
theorem run_put_free {x : Clusters.Context} {client : Client} {record : Record.Cluster}
    {given : Cluster} (hgiven : Clusters.prepare x { record with id := id } = .ok given)
    (hfree : w.store.clusters.get? given.name = none) :
    w.run (Clusters.put x client id record).run = w.run (do
      let created ← Clusters.store x client given
      let shown ← Clusters.render x created
      return (true, shown) : Task (Bool × Record.Cluster)).run := by
  have hmissing : w.run (liftM (Work.call client (.getCluster given.name)) :
      Task (Except StoreError Cluster)).run =
      (.ok (.error (.noObject clusterKind given.name)), w) := by
    have hanswer : (w.store.answer (.getCluster given.name)).1 =
        .error (.noObject clusterKind given.name) := by
      simp only [Memory.answer, hfree]
      rfl
    exact congrArg (fun a => (Except.ok a, w)) hanswer
  unfold Clusters.put
  rw [hgiven]
  refine (World.run_task_bind w (liftM (Work.call client (.getCluster given.name)) :
      Task (Except StoreError Cluster)) _).trans ?_
  rw [hmissing]
  rfl

namespace CreatesSame

theorem header? (h : CreatesSame id r r') (key : String) : r'.header? key = r.header? key := by
  unfold Http.Request.header?
  rw [h.headers]

theorem route (h : CreatesSame id r r') : Route.of? r'.path = some .clusters := by
  rw [h.path]
  decide

theorem operation (h : CreatesSame id r r') :
    Route.clusters.operation? r'.method = some .createCluster := by
  rw [h.method]
  decide

theorem access (h : CreatesSame id r r') : Access.of r'.path = .caller := by
  rw [h.path]
  decide

theorem contextOf_eq (h : CreatesSame id r r') (s : Setting) : contextOf s r' = contextOf s r := by
  unfold contextOf baseUrl
  rw [h.header?, h.header?]

/-- The other request is served by creating the cluster of its body. -/
theorem serve (h : CreatesSame id r r') (hreceived : r.body.length ≤ bodyLimit) (s : Setting)
    (client : Client) :
    Service.serve s r' (Route.of? r'.path) (some client) = (do
      let c ← ((readBody Record.Cluster.layout.decode r.body).map (fun c => { c with id := id }) :
        Except Refusal Record.Cluster)
      let c ← Clusters.create (contextOf s r) client c
      return clusterResponse 201 c) := by
  rw [serve_of_operation? h.route h.operation]
  dsimp only [serveCaller, withBody]
  rw [receivedBody?_of_le (h.received.2 hreceived), ← h.body, ← h.contextOf_eq s]
  rfl

/-- Under an identifier that is free, both requests are served alike. -/
theorem run_serve (h : CreatesSame id r r') (hput : PutsUnder r id)
    (hname : drawn s.words (Ident.normalize id Ident.clusterStart) = .ok name)
    (hfree : w.store.clusters.get? name = none) (client : Client) :
    w.run (Service.serve s r' (Route.of? r'.path) (some client)).run =
      w.run (Service.serve s r (Route.of? r.path) (some client)).run := by
  rcases Nat.lt_or_ge bodyLimit r.body.length with hlong | hreceived
  · have hlong' : bodyLimit < r'.body.length :=
      Nat.lt_of_not_le (mt h.received.1 (Nat.not_le.2 hlong))
    rw [hput.serve_tooLong hlong, serve_of_operation? h.route h.operation,
      serveCaller_tooLong (o := .createCluster) trivial hlong']
  rw [h.serve hreceived, hput.serve hreceived]
  cases readBody Record.Cluster.layout.decode r.body with
  | error e => rfl
  | ok record =>
      change w.run (Clusters.create (contextOf s r) client { record with id := id } >>= fun c =>
        pure (clusterResponse 201 c)).run = w.run (Clusters.put (contextOf s r) client id record >>=
          fun put => pure (clusterResponse (if put.1 then 201 else 200) put.2)).run
      rw [World.run_task_bind w (Clusters.put _ _ _ _)]
      cases hgiven : Clusters.prepare (contextOf s r) { record with id := id } with
      | error e =>
          unfold Clusters.put Clusters.create
          rw [hgiven]
          rfl
      | ok given =>
          have hgivenName : given.name = name :=
            Except.ok.inj ((name_of_prepare hgiven).symm.trans hname)
          rw [run_put_free hgiven (hgivenName ▸ hfree), ← World.run_task_bind, bind_assoc]
          unfold Clusters.create
          rw [hgiven]
          simp only [bind_assoc, pure_bind]
          rfl

end CreatesSame

/-- Both requests are answered alike, and leave the same behind. -/
theorem CreatesSame.run_respond (h : CreatesSame id r r') (hput : PutsUnder r id)
    (hname : drawn s.words (Ident.normalize id Ident.clusterStart) = .ok name)
    (hfree : w.store.clusters.get? name = none) :
    w.run (respond s r') = w.run (respond s r) := by
  have hfinish : ∀ response, finish r' (Route.of? r'.path) response =
      finish r (Route.of? r.path) response := by
    intro response
    have hmethod : r'.method ≠ "HEAD" := by
      rw [h.method]
      decide
    have hmethod' := hput.method_ne
    obtain ⟨route, raw, hroute, ho, -⟩ := hput
    unfold finish
    rw [h.route, hroute, Option.bind_some, Option.bind_some, h.operation, ho, if_neg hmethod,
      if_neg hmethod']
    rfl
  have hrun : w.run (authenticate s r' (Route.of? r'.path)).run =
      w.run (authenticate s r (Route.of? r.path)).run := by
    unfold authenticate
    rw [h.access, hput.access]
    dsimp only
    rw [h.header?]
    cases bearerToken? (r.header? "authorization") with
    | none => rfl
    | some token =>
        refine World.run_task_congr (fun built w' hbuilt => ?_)
        have hstore : w'.store = w.store := by
          rw [World.run_lift] at hbuilt
          rw [← (Prod.mk.inj hbuilt).2]
          exact store_clientFor w token
        cases built with
        | error e => rfl
        | ok client => exact h.run_serve hput hname (hstore ▸ hfree) client
  unfold respond Task.response
  dsimp only
  simp only [World.run_bind, hrun]
  exact congrArg (fun response => (response, _)) (hfinish _)

end Requests

end Service

/-- A client puts a cluster under an identifier.  If the cluster is there and the response has the
status 200, then the desired state and the annotations that are stored are the ones of the new cluster
that the body describes, under the identifier of the path; what is observed of the cluster stays, and
so do its labels but for the one that names its tenant, and everything else in the store.  If it is
not there, then any request to create the cluster that the body describes, under this identifier, is
answered alike and leaves the same behind. -/
theorem put_desired_state {w : World} (hbuilt : w.store.Built) {s : Setting} {r : Http.Request}
    {id name : String} (hput : PutsUnder r id)
    (hname : drawn s.words (Ident.normalize id Ident.clusterStart) = .ok name) :
    let answer := w.run (respond s r)
    (∀ found, w.store.clusters.get? name = some found → answer.1.status = 200 →
      ∃ record given stored,
        readBody Record.Cluster.layout.decode r.body = .ok record ∧
        drawn s.words (Exchange.Cluster.ofRecord { record with id := id }) = .ok given ∧
        IsReplaced w.store found given stored ∧
        answer.2.store = { w.store with
          clusters := w.store.clusters.insert name stored
          revision := w.store.revision + 1 }) ∧
    (w.store.clusters.get? name = none → ∀ r', CreatesSame id r r' →
      w.run (respond s r') = answer) := by
  intro answer
  refine ⟨fun found hget hdone => ?_, fun hfree r' hsame => hsame.run_respond hput hname hfree⟩
  obtain ⟨record, given, hread, hgiven, hgivenName, hstore⟩ :=
    hput.replaces hbuilt.isSound hname hget hdone
  have hdrawn : drawn s.words (Exchange.Cluster.ofRecord { record with id := id }) = .ok given := by
    unfold Clusters.prepare at hgiven
    split at hgiven
    · cases hgiven
    · exact Result.mapError_eq_ok_iff.1 hgiven
  refine ⟨record, given, _, hread, hdrawn, isReplaced_writeCluster w.store found given, ?_⟩
  rw [hstore, ← hbuilt.isSound.clusters.named name found hget]
  rfl

/-! #### A cluster that is put, and one that is created -/

namespace Service.Putting

/-- A cluster with a bootstrap token, a dynamic fact and a label of somebody else's. -/
def store : Memory := (Memory.writeCluster { ns := "fleet" } {
  metadata := { name := some "c-1", labels := some (.ofList [("team", "red")]) }
  spec := { displayName := "One", tenantRef := ⟨"t-1"⟩ }
  status := some {
    bootstrapToken := some ⟨"abc", true, ⟨4102444800, 0⟩⟩
    facts := .ofList [("ready", "true")] } }).2

def world : World := { World.empty "fleet" 1 with store := store }

def setting : Setting := ⟨{}, ⟨0, 0⟩, fun _ => 0⟩

/-- A client puts a cluster; the body carries another identifier, and names a dynamic fact. -/
def put (path : String) : Http.Request where
  method := "PUT"
  path := path
  headers := [("authorization", "Bearer abc")]
  body := Text.encode r#"{"id":"c-9","tenant":"t-2","dynamicFacts":{"ready":false}}"#

/-- A client creates the same cluster. -/
def post : Http.Request where
  method := "POST"
  path := "/clusters"
  headers := [("authorization", "Bearer abc")]
  body := Text.encode r#"{"id":"c-2","tenant":"t-2","dynamicFacts":{"ready":false}}"#

/-- The cluster that is stored under an identifier. -/
def stored? (w : World) (id : String) : Option Cluster := w.store.clusters.get? id

theorem put_desired_state_putting : store.Built ∧
    (world.run (respond setting (put "/clusters/c-1"))).1.status = 200 ∧
    ((stored? (world.run (respond setting (put "/clusters/c-1"))).2 "c-1").bind (·.status) =
      (stored? world "c-1").bind (·.status)) ∧
    CreatesSame "c-2" (put "/clusters/c-2") post ∧
    world.run (respond setting post) = world.run (respond setting (put "/clusters/c-2")) := by
  have hbuilt : store.Built := .writeCluster _ (.empty "fleet")
  have hput : PutsUnder (put "/clusters/c-1") "c-1" :=
    ⟨.cluster "c-1", "c-1", by decide, by decide, by decide +kernel⟩
  have hput' : PutsUnder (put "/clusters/c-2") "c-2" :=
    ⟨.cluster "c-2", "c-2", by decide, by decide, by decide +kernel⟩
  have hsame : CreatesSame "c-2" (put "/clusters/c-2") post :=
    ⟨rfl, rfl, rfl, by decide +kernel, by decide +kernel⟩
  have hdone : (world.run (respond setting (put "/clusters/c-1"))).1.status = 200 := by
    decide +kernel
  have hname : drawn setting.words (Ident.normalize "c-1" Ident.clusterStart) = .ok "c-1" := rfl
  have hname' : drawn setting.words (Ident.normalize "c-2" Ident.clusterStart) = .ok "c-2" := rfl
  obtain ⟨found, hfound⟩ : ∃ found, world.store.clusters.get? "c-1" = some found :=
    Option.isSome_iff_exists.1 (by decide +kernel)
  obtain ⟨record, given, stored, -, -, hreplaced, hstore⟩ :=
    (put_desired_state (w := world) hbuilt hput hname).1 found hfound hdone
  refine ⟨hbuilt, hdone, ?_, hsame,
    (put_desired_state (w := world) hbuilt hput' hname').2 (by decide +kernel) post hsame⟩
  unfold stored?
  rw [hstore, hfound]
  dsimp only
  rw [Dict.get?_insert, if_pos rfl]
  exact hreplaced.status

end Service.Putting

/-! #### A body that is too long only to be put -/

namespace Service.Lengthy

/-- A client puts a cluster; the body carries an identifier of its own. -/
def put (carried : String) : Http.Request where
  method := "PUT"
  path := "/clusters/c-1"
  headers := [("authorization", "Bearer abc")]
  body := Text.encode (Value.object [("id", .string carried), ("tenant", .string "t-1")]).render

/-- A client creates the cluster. -/
def post : Http.Request where
  method := "POST"
  path := "/clusters"
  headers := [("authorization", "Bearer abc")]
  body := Text.encode (Value.object [("id", .string "c-1"), ("tenant", .string "t-1")]).render

def world : World := World.empty "fleet" 1

def setting : Setting := ⟨{}, ⟨0, 0⟩, fun _ => 0⟩

/-- An identifier with which no body is received. -/
def carried : String := String.ofList (List.replicate 2097152 'c')

theorem readBody_put (carried : String) : readBody Record.Cluster.layout.decode (put carried).body =
    .ok { id := carried, tenant := "t-1" } := by
  have hfits : (Value.object [("id", .string carried), ("tenant", .string "t-1")]).Fits depthLimit :=
    ⟨by decide, List.pairwise_pair.2 (by decide : "id" < "tenant"), trivial, trivial, trivial⟩
  have hwrites : Writes (put carried).body _ := writes_render hfits (Value.survives_of_doubles_nil rfl)
  exact hwrites.readBody_eq_ok_iff.2 rfl

theorem bodyLimit_lt_put : bodyLimit < (put carried).body.length := by
  have hcarried : carried.toList.length = bodyLimit := by
    unfold carried
    rw [String.toList_ofList, List.length_replicate]
    rfl
  rw [← hcarried]
  exact length_lt_encode_render "id" carried _

/-- The cluster that the bodies describe alike is created, but not put. -/
theorem lengthy_put_refused : world.store.Built ∧ PutsUnder (put carried) "c-1" ∧
    drawn setting.words (Ident.normalize "c-1" Ident.clusterStart) = .ok "c-1" ∧
    world.store.clusters.get? "c-1" = none ∧ post.headers = (put carried).headers ∧
    readBody Record.Cluster.layout.decode post.body =
      (readBody Record.Cluster.layout.decode (put carried).body).map (fun c => { c with id := "c-1" }) ∧
    (world.run (respond setting post)).1.status = 201 ∧
    (world.run (respond setting (put carried))).1.status = 413 := by
  have hput : PutsUnder (put carried) "c-1" :=
    ⟨.cluster "c-1", "c-1", by decide, by decide, by decide +kernel⟩
  have hread : readBody Record.Cluster.layout.decode post.body = .ok { id := "c-1", tenant := "t-1" } := by
    decide +kernel
  have htoken : (put carried).Presents "abc" := Http.Request.presents_iff.2 (by decide +kernel)
  refine ⟨.empty "fleet", hput, rfl, rfl, rfl, ?_, by decide +kernel, ?_⟩
  · rw [hread, readBody_put]
    rfl
  · exact (hput.asks.respond_tooLong (fun raw hid => Option.isSome_iff_exists.2 ⟨"c-1", hid⟩)
      ⟨hput.access, htoken⟩ (Or.inr rfl) bodyLimit_lt_put).1

end Service.Lengthy
end Fleet

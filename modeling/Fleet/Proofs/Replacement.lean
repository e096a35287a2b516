import Fleet.Proofs.Rejection
import Fleet.Proofs.Service.Body
import Fleet.Proofs.Service.Cached
import Fleet.Proofs.Url.Form
import Fleet.Proofs.WellFormed

/-! # Clusters that are put twice

A client puts a cluster under an identifier: a cluster that is not there is created, and one that is
there is replaced except for what is observed of it.  The second of two equal requests always
replaces, and changes no more than one fact: the instance that a cluster is registered with is noted
when it is created, and not when it is replaced.

Main statement: `put_again`. -/

namespace Fleet

open Credential Http Resource Service Store

/-! ### Worlds without an outage -/

namespace Service

theorem World.outage_answer {w : World} (h : w.outage = none) (a : Action) :
    (w.answer a).2.outage = none := by
  cases a with
  | call | lookup | count | readCounters => exact h
  | build token => simp [World.answer, World.build, h]
  | remember token client =>
      simp only [World.answer, World.remember]
      split <;> exact h
  | ownClient =>
      simp only [World.answer, World.ownClient]
      cases w.own with
      | some client => exact h
      | none => simp [World.build, h]

theorem Workshop.outage_run {ι α : Type} [DecidableEq ι] {w : Workshop ι α}
    (h : w.world.outage = none) (moves : List (Move ι)) : (w.run moves).world.outage = none := by
  induction moves generalizing w with
  | nil => exact h
  | cons step moves ih =>
      refine ih ?_
      cases step with
      | act i =>
          simp only [move]
          cases w.rest i with
          | done _ => exact h
          | act a next => exact World.outage_answer h a
      | touch | conflicts => exact h

/-- Requests do not keep others from getting clients. -/
theorem Reachable.outage {w : World} (h : Reachable w) : w.outage = none := by
  induction h with
  | empty ns cacheSize => rfl
  | @respond w s r _ ih =>
      obtain ⟨moves, hmoves⟩ :=
        (Workshop.opening w (fun _ : Unit => Service.respond s r)).exists_moves_run
      have hnone := Workshop.outage_run
        (w := Workshop.opening w (fun _ : Unit => Service.respond s r)) ih moves
      rw [hmoves] at hnone
      exact hnone
  | interleave s r moves _ ih => exact Workshop.outage_run ih moves

/-! ### Requests that put a cluster -/

/-- A path does not write the empty identifier. -/
theorem ne_empty_of_pathId? {raw id : String} (h : pathId? raw = some id) (hraw : raw ≠ "") :
    id ≠ "" := by
  rintro rfl
  unfold pathId? at h
  have hbytes := Url.percentDecode_eq_nil (Text.eq_nil_of_decode? h)
  exact hraw (Text.eq_empty_of_encode hbytes)

theorem ne_empty_of_put {path method raw : String} {route : Route}
    (hroute : Route.of? path = some route) (ho : route.operation? method = some (.putCluster raw)) :
    raw ≠ "" := by
  have hall : ∀ e ∈ route.operations, e.2 = .putCluster raw → route = .cluster raw := by
    cases route <;> simp [Route.operations]
  obtain ⟨e, hfind, he⟩ := Option.map_eq_some_iff.1 ho
  obtain rfl := hall e (List.mem_of_find?_eq_some hfind) he
  rintro rfl
  unfold Route.of? at hroute
  split at hroute
  all_goals
    try split at hroute
    all_goals
      cases hroute
      try contradiction

section Requests

variable {s : Setting} {r : Http.Request} {x : Clusters.Context} {id : String}
  {record : Record.Cluster}

/-- What a request that puts a cluster says. -/
structure IsPut (s : Setting) (r : Http.Request) (x : Clusters.Context) (id : String)
    (record : Record.Cluster) : Prop where
  context : x = ⟨s.config, baseUrl r, s.now, s.words⟩
  operation : ∃ route raw, Route.of? r.path = some route ∧
    route.operation? r.method = some (.putCluster raw) ∧ pathId? raw = some id
  received : r.body.length ≤ bodyLimit
  body : readBody Record.Cluster.layout.decode r.body = .ok record

theorem isPut_of_errand? (h : errand? s r = some (.putCluster x id record)) :
    IsPut s r x id record := by
  obtain ⟨route, hroute, h⟩ := Option.bind_eq_some_iff.1 h
  obtain ⟨o, ho, h⟩ := Option.bind_eq_some_iff.1 h
  cases o with
  | putCluster raw =>
      obtain ⟨id', hid, h⟩ := Option.bind_eq_some_iff.1 h
      obtain ⟨body, hreceived, h⟩ := Option.bind_eq_some_iff.1 h
      obtain ⟨hlength, rfl⟩ := receivedBody?_eq_some_iff.1 hreceived
      obtain ⟨record', hrecord, h⟩ := Option.bind_eq_some_iff.1 h
      cases h
      exact ⟨rfl, ⟨route, raw, hroute, ho, hid⟩, hlength, Result.toOption_eq_some_iff.1 hrecord⟩
  | _ => simp [operationErrand?, Option.bind_eq_some_iff] at h

namespace IsPut

variable {w : World} {token : String}

theorem id_ne (h : IsPut s r x id record) : id ≠ "" := by
  obtain ⟨route, raw, hroute, ho, hid⟩ := h.operation
  exact ne_empty_of_pathId? hid (ne_empty_of_put hroute ho)

theorem access (h : IsPut s r x id record) : Access.of r.path = .caller := by
  obtain ⟨route, raw, hroute, ho, -⟩ := h.operation
  rw [Route.access_of_route hroute, ← Route.access_of_operation? ho]
  rfl

theorem errand (h : IsPut s r x id record) : errand? s r = some (.putCluster x id record) := by
  obtain ⟨rfl, ⟨route, raw, hroute, ho, hid⟩, hreceived, hbody⟩ := h
  simp [errand?, operationErrand?, hroute, ho, hid, receivedBody?_of_le hreceived, hbody,
    Except.toOption]

/-- The same request again, in another setting. -/
theorem again (h : IsPut s r x id record) (s' : Setting) :
    IsPut s' r ⟨s'.config, baseUrl r, s'.now, s'.words⟩ id record :=
  ⟨rfl, h.operation, h.received, h.body⟩

/-- Which cluster is meant does not depend on what is drawn. -/
theorem prepare_eq (h : IsPut s r x id record) (x' : Clusters.Context) :
    Clusters.prepare x' { record with id := id } = Clusters.prepare x { record with id := id } := by
  unfold Clusters.prepare
  rw [drawn_ofClusterRecord, drawn_ofClusterRecord]
  dsimp only
  rw [Ident.drawn_normalize h.id_ne, Ident.drawn_normalize h.id_ne]

/-- A caller's request is answered as the task ends. -/
theorem respond (h : IsPut s r x id record) (hfree : w.outage = none)
    (hacts : r.ActsAs (some token))
    {R : Refusal → World → Prop} {D : Bool × Record.Cluster → World → Prop}
    (hput : ∀ client w', w'.store = w.store → Leads w' R D (Clusters.put x client id record)) :
    (∃ e, R e (w.run (respond s r)).2 ∧ (w.run (respond s r)).1.status = e.status) ∨
      ∃ put, D put (w.run (respond s r)).2 ∧
        (w.run (respond s r)).1.status = if put.1 then 201 else 200 := by
  have hends := (leads_served h.errand ⟨.put, fun _ => rfl, fun _ => rfl⟩ hacts (Or.inr hfree)
    hput).respond
  obtain ⟨e, hrefused, hresponse⟩ | ⟨_, ⟨put, hdone, rfl⟩, hresponse⟩ := hends
  · exact Or.inl ⟨e, hrefused, congrArg Response.status hresponse⟩
  · exact Or.inr ⟨put, hdone, congrArg Response.status hresponse⟩

/-- A request that is not refused has put its cluster. -/
theorem puts (h : IsPut s r x id record) (hw : Reachable w)
    (hdone : (w.run (Service.respond s r)).1.status < 400) : ∃ isNew,
      Puts x { record with id := id } w.store (w.run (Service.respond s r)).2.store isNew ∧
        (w.run (Service.respond s r)).1.status = if isNew then 201 else 200 := by
  have hdated : w.store.IsDated := isDated_iff_all.2 (hw.all upholds_isDated)
  obtain ⟨token, hacts⟩ := exists_actsAs h.access hdone
  have hends := h.respond hw.outage hacts
    (R := fun e w' => (Errand.putCluster x id record).Spares w.store e.status w'.store)
    (D := fun put w' => Puts x { record with id := id } w.store w'.store put.1) (by
      intro client w' hstore
      rw [← hstore] at hdated ⊢
      exact Errand.leads_put (hstore ▸ hw.isSound) hdated)
  obtain ⟨e, hspares, hstatus⟩ | ⟨put, hputs, hstatus⟩ := hends
  · have hrefused := hspares.refused
    omega
  · exact ⟨put.1, hputs, hstatus⟩

/-- A cluster that is there is replaced. -/
theorem replaces (h : IsPut s r x id record) (hw : Reachable w) (hacts : r.ActsAs (some token))
    {given c : Cluster} (hgiven : Clusters.prepare x { record with id := id } = .ok given)
    (hget : w.store.clusters.get? given.name = some c) :
    (w.run (Service.respond s r)).1.status = 200 ∧ ∃ c',
      (w.run (Service.respond s r)).2.store.clusters.get? given.name = some c' ∧
        IsWritten (Clusters.replaceBy c given) c' := by
  have hname : c.name = given.name := hw.isSound.clusters.named _ c hget
  have hdated : c.IsDated := (isDated_iff_all.2 (hw.all upholds_isDated)) _ c hget
  have hends := h.respond hw.outage hacts (R := fun _ _ => False)
    (D := fun put w' => put.1 = false ∧ ∃ c', w'.store.clusters.get? given.name = some c' ∧
      IsWritten (Clusters.replaceBy c given) c')
    (fun client w' hstore => Errand.leads_put_found hgiven (hstore ▸ hget) hname hdated)
  obtain ⟨e, hfalse, -⟩ | ⟨⟨isNew, shown⟩, ⟨rfl, hstored⟩, hstatus⟩ := hends
  · exact hfalse.elim
  · exact ⟨hstatus, hstored⟩

end IsPut

/-! ### What is stored -/

/-- The texts among the given facts are all the facts of a new cluster. -/
theorem facts_of_prepare {given : Cluster} (h : Clusters.prepare x record = .ok given) :
    given.spec.facts = (record.properties.facts.getD .empty).texts := by
  obtain ⟨name, -, -, -, htake⟩ := exists_of_prepareCluster h
  obtain ⟨template, m, -, -, rfl⟩ := Exchange.Cluster.exists_of_result_take htake
  have hblank : (blankCluster name record.tenant).spec.facts = .empty := rfl
  unfold Exchange.Cluster.amended
  dsimp only
  rw [hblank]
  cases record.properties.facts with
  | none => rfl
  | some facts => exact Dict.ext_get? (fun key => by simp [Dict.get?_overlay])

theorem name_of_prepare {given : Cluster} (h : Clusters.prepare x record = .ok given) :
    drawn x.words (Ident.normalize record.id Ident.clusterStart) = .ok given.name := by
  obtain ⟨name, -, hname, -, htake⟩ := exists_of_prepareCluster h
  rw [hname, Exchange.Cluster.name_of_result_take htake]
  rfl

end Requests

/-- A label that is there already is not changed. -/
theorem setLabel_of_labelled {m : Metadata} {key value : String}
    (h : m.labels.bind (·.get? key) = some value) : m.setLabel key value = m := by
  obtain ⟨labels, hlabels, hget⟩ := Option.bind_eq_some_iff.1 h
  have hsame : labels.insert key value = labels := by
    refine Dict.ext_get? (fun k => ?_)
    rw [Dict.get?_insert]
    split
    · next heq => rw [← heq, hget]
    · rfl
  unfold Metadata.setLabel
  rw [hlabels, Option.getD_some, hsame, ← hlabels]

/-- The cluster that was put, with all of its desired state. -/
theorem Puts.exists_stored {x : Clusters.Context} {record : Record.Cluster} {m m' : Memory}
    {isNew : Bool} (h : Puts x record m m' isNew) :
    ∃ given c, Clusters.prepare x record = .ok given ∧ m'.clusters.get? given.name = some c ∧
      c.metadata.annotations = given.metadata.annotations ∧
      c.spec = if isNew then { given.spec with
          facts := given.spec.facts.insert Exchange.Cluster.instanceFact x.config.instanceName }
        else given.spec := by
  cases h with
  | created hgiven _ hget hwritten | replaced hgiven _ hget hwritten =>
      exact ⟨_, _, hgiven, hget, hwritten.annotations, hwritten.spec⟩

/-- A cluster of the same tenant that has the annotations already is replaced. -/
theorem replaced_of_put {given c c' : Cluster}
    (hannotations : c.metadata.annotations = given.metadata.annotations)
    (htenant : c.spec.tenantRef = given.spec.tenantRef) (howned : c.IsOwned)
    (hwritten : IsWritten (Clusters.replaceBy c given) c') :
    c'.metadata.annotations = c.metadata.annotations ∧ c'.metadata.labels = c.metadata.labels ∧
      c'.status = c.status ∧ c'.spec = given.spec := by
  have hlabel : c.metadata.labels.bind (·.get? Cluster.tenantLabel) =
      some given.spec.tenantRef.name := by
    rw [← htenant]
    exact howned.label
  have hlabels : (Clusters.replaceBy c given).metadata.labels = c.metadata.labels := by
    have hset := congrArg Metadata.labels (setLabel_of_labelled hlabel)
    exact hset
  exact ⟨hwritten.annotations.trans hannotations.symm, hwritten.labels.trans hlabels,
    hwritten.status, hwritten.spec⟩

end Service

/-! ### Result -/

/-- A client puts a cluster, in any world that requests lead to, and is answered that it was created
or replaced.  The same request again is answered that the cluster was replaced.  It leaves the
annotations, the labels and the observed state of the cluster as the first one left them, and if that
one replaced the cluster, all of the desired state as well.  If that one created the cluster, it noted
the instance among the facts; the second leaves the facts of the request alone in their place. -/
theorem put_again {w : World} (hw : Reachable w) {s : Setting} (s' : Setting) {r : Http.Request}
    {x : Clusters.Context} {id : String} {record : Record.Cluster}
    (he : errand? s r = some (.putCluster x id record))
    (hdone : (w.run (respond s r)).1.status = 200 ∨ (w.run (respond s r)).1.status = 201) :
    let first := w.run (respond s r)
    let second := first.2.run (respond s' r)
    second.1.status = 200 ∧ ∃ name c c',
      drawn s.words (Ident.normalize id Ident.clusterStart) = .ok name ∧
      first.2.store.clusters.get? name = some c ∧ second.2.store.clusters.get? name = some c' ∧
      c'.metadata.annotations = c.metadata.annotations ∧ c'.metadata.labels = c.metadata.labels ∧
      c'.status = c.status ∧ c'.spec.facts = (record.properties.facts.getD .empty).texts ∧
      (first.1.status = 200 → c'.spec = c.spec) ∧
      (first.1.status = 201 → c.spec = { c'.spec with
        facts := c'.spec.facts.insert Exchange.Cluster.instanceFact s.config.instanceName }) := by
  intro first second
  have hput := isPut_of_errand? he
  have hdone : (w.run (respond s r)).1.status < 400 := by omega
  obtain ⟨token, hacts⟩ := exists_actsAs hput.access hdone
  obtain ⟨isNew, hputs, hstatus⟩ := hput.puts hw hdone
  obtain ⟨given, c, hgiven, hget, hannotations, hspec⟩ := hputs.exists_stored
  -- the second request finds the cluster that the first one left, whichever way it did
  have hfirst : Reachable first.2 := .respond s r hw
  obtain ⟨hagain, c', hget', hwritten⟩ := (hput.again s').replaces hfirst hacts
    ((hput.prepare_eq _).trans hgiven) hget
  have htenant : c.spec.tenantRef = given.spec.tenantRef := by
    rw [hspec]
    cases isNew <;> rfl
  obtain ⟨hannotations', hlabels, hobserved, hspec'⟩ := replaced_of_put hannotations htenant
    ((hfirst.all upholds_isNamed).clusters _ c hget).2 hwritten
  have hfacts := facts_of_prepare hgiven
  have hname := name_of_prepare hgiven
  have hcontext := hput.context
  subst hcontext
  rw [← hspec'] at hfacts
  refine ⟨hagain, given.name, c, c', hname, hget, hget', hannotations', hlabels, hobserved, hfacts,
    ?_, ?_⟩
  · intro h200
    cases isNew with
    | false => exact hspec'.trans hspec.symm
    | true =>
        have hne : 200 = 201 := h200.symm.trans hstatus
        omega
  · intro h201
    cases isNew with
    | false =>
        have hne : 201 = 200 := h201.symm.trans hstatus
        omega
    | true =>
        rw [hspec']
        exact hspec

/-! #### A registration that is sent twice -/

namespace Service.Resent

/-- A client puts a cluster with one fact. -/
def request : Http.Request where
  method := "PUT"
  path := "/clusters/c-1"
  headers := [("authorization", "Bearer abc")]
  body := Text.encode r#"{"tenant":"t-1","facts":{"cloud":"here"}}"#

def setting : Setting := ⟨{ instanceName := "prod" }, ⟨0, 0⟩, fun _ => 0⟩

def record : Record.Cluster where
  tenant := "t-1"
  properties := { facts := some (.ofList [("cloud", .string "here")]) }

def first : Response × World := (World.empty "fleet" 1).run (respond setting request)

def second : Response × World := first.2.run (respond setting request)

/-- The facts of the cluster. -/
def facts? (w : World) : Option (List (String × String)) :=
  (w.store.clusters.get? "c-1").map (fun c => c.spec.facts.entries)

theorem put_again_resent : Reachable (World.empty "fleet" 1) ∧
    errand? setting request =
      some (.putCluster ⟨setting.config, baseUrl request, setting.now, setting.words⟩ "c-1" record) ∧
    first.1.status = 201 ∧ second.1.status = 200 := by
  have hreachable : Reachable (World.empty "fleet" 1) := .empty "fleet" 1
  have herrand : errand? setting request = some (.putCluster
      ⟨setting.config, baseUrl request, setting.now, setting.words⟩ "c-1" record) := by
    have hroute : Route.of? request.path = some (.cluster "c-1") := by decide
    have ho : (Route.cluster "c-1").operation? request.method = some (.putCluster "c-1") := by decide
    have hid : pathId? "c-1" = some "c-1" := by decide +kernel
    have hreceived : receivedBody? request = some request.body := by decide +kernel
    have hbody : readBody Record.Cluster.layout.decode request.body = .ok record := by
      decide +kernel
    simp [errand?, operationErrand?, hroute, ho, hid, hreceived, hbody, Except.toOption]
  have hstatus : first.1.status = 201 := by decide +kernel
  exact ⟨hreachable, herrand, hstatus, (put_again hreachable setting herrand (Or.inr hstatus)).1⟩

/-- The second request takes away what the first one noted. -/
theorem put_twice_resent : Reachable (World.empty "fleet" 1) ∧
    first.1.status = 201 ∧ facts? first.2 = some [("cloud", "here"), ("lieutenant-instance", "prod")] ∧
    second.1.status = 200 ∧ facts? second.2 = some [("cloud", "here")] := by
  refine ⟨.empty "fleet" 1, ?_, ?_, ?_, ?_⟩ <;> decide +kernel

end Service.Resent
end Fleet

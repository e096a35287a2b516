import Fleet.Proofs.Service.Alone
import Fleet.Proofs.Service.Dated
import Fleet.Proofs.Service.Keeping

/-! # Refused errands change nothing

An errand that has the store to itself and is refused leaves everything as it was (`Errand.Spares`),
whatever refuses it: the request, a change that fails half-way (`Errand.Fails`), or the store.  There
is one exception.  An errand that also sets what is observed of a cluster writes it after the
rest, and if the second write conflicts then the first one stands (`Errand.HalfWritten`). -/

namespace Fleet.Service

open Resource Store

/-! ### What errands leave behind -/

namespace Errand

/-- The properties of a cluster that an errand sets. -/
def properties? : Errand → Option Record.ClusterProperties
  | createCluster _ c | putCluster _ _ c => some c.properties
  | updateCluster _ _ p => some p
  | _ => none

/-- The errand sets what is observed of a cluster. -/
def AsksStatus (e : Errand) : Prop :=
  ∃ p, e.properties? = some p ∧ (p.dynamicFacts.isSome ∨ p.compileMeta.isSome)

/-- The cluster that the first write of an errand leaves in a store: a new one, of which nothing is
observed, or a changed one with what was observed of it before. -/
inductive FirstWrites (m : Memory) : Errand → Cluster → Prop where
  | created {e : Errand} {c : Cluster} : e.NewCluster c → m.clusters.get? c.name = none →
    FirstWrites m e c
  | changed {x : Clusters.Context} {id : String} {p : Record.ClusterProperties}
    {found c : Cluster} : m.clusters.get? id = some found →
    (Exchange.Cluster.take p).result found = .ok c → c.status ≠ found.status →
    FirstWrites m (updateCluster x id p) { c with status := found.status }

/-- An errand that sets what is observed of a cluster has written the rest of it, and the second write
was refused, as one of the conflicts that were to come. -/
structure HalfWritten (e : Errand) (m m' : Memory) : Prop where
  asks : e.AsksStatus
  refused : 0 < m.conflicts
  stands : ∃ c, FirstWrites m e c ∧
    m' = { (m.writeCluster c).2 with conflicts := m.conflicts - 1 }

/-- The change that an errand asks for fails on what is stored, perhaps half-way. -/
def Fails (m : Memory) (error : Exchange.ChangeError) : Errand → Prop
  | createTenant config words t => Tenants.prepare config words t = .error error
  | updateTenant id p => ∃ t half, m.tenants.get? id = some t ∧
      (Exchange.Tenant.take p).apply t = (.error error, half)
  | createCluster x c => Clusters.prepare x c = .error (.change error)
  | updateCluster _ id p => ∃ c half, m.clusters.get? id = some c ∧
      (Exchange.Cluster.take p).apply c = (.error error, half)
  | putCluster x id c => Clusters.prepare x { c with id := id } = .error (.change error)
  | reportCompilation _ report => Exchange.Cluster.compileMeta report = .error error
  | _ => False

/-- What a refused errand may leave behind, by the status of the response. -/
structure Spares (e : Errand) (m : Memory) (status : Nat) (m' : Memory) : Prop where
  refused : 400 ≤ status
  leaves : m.HoldsSame m' ∨ status = 409 ∧ e.HalfWritten m m'

/-- A task that is an errand: refused it spares the store, and it fails if a change does. -/
def IsSparing {α : Type} (e : Errand) (w : World) (t : Task α) : Prop :=
  Leads w (fun r w' => e.Spares w.store r.status w'.store)
    (fun _ _ => ∀ error, ¬ e.Fails w.store error) t

end Errand

/-! ### Refusals -/

section Refusals

variable {e : Errand} {m m' : Memory} {w : World}

theorem status_of_change (error : Exchange.ChangeError) : 400 ≤ (Refusal.change error).status := by
  unfold Refusal.status
  dsimp only
  split <;> decide

/-- Nothing was written yet. -/
theorem spares_of_holdsSame {status : Nat} (hstatus : 400 ≤ status) (h : m.HoldsSame m') :
    e.Spares m status m' := ⟨hstatus, Or.inl h⟩

theorem spares_change (error : Exchange.ChangeError) (h : m.HoldsSame m') :
    e.Spares m (Refusal.change error).status m' :=
  spares_of_holdsSame (status_of_change error) h

/-- A call failed, and nothing was written before. -/
theorem spares_call {c : Call} {error : StoreError} (h : m.HoldsSame w.store)
    (herror : (w.store.answer c).1 = .error error) :
    e.Spares m (Refusal.store error).status (w.afterCall c).store :=
  spares_of_holdsSame (status_of_answer_error herror)
    (h.trans (Memory.holdsSame_of_error herror))

/-- What is observed changes only if the properties say it. -/
theorem asksStatus_of_result_take {p : Record.ClusterProperties} {c c' : Cluster}
    (h : (Exchange.Cluster.take p).result c = .ok c') (hne : c'.status ≠ c.status) :
    p.dynamicFacts.isSome ∨ p.compileMeta.isSome := by
  obtain ⟨template, m, -, hreport, rfl⟩ := Exchange.Cluster.exists_of_result_take h
  by_contra hnone
  simp only [not_or, Option.not_isSome_iff_eq_none] at hnone
  rw [hnone.2] at hreport
  cases hreport
  apply hne
  unfold Exchange.Cluster.amended Exchange.Cluster.statusAfter
  rw [hnone.1]
  rfl

theorem not_fails_of_result {ρ : Type} {c : Exchange.Change ρ Unit} {r r' half : ρ}
    {error : Exchange.ChangeError} (h : c.result r = .ok r') : c.apply r ≠ (.error error, half) := by
  intro happly
  unfold Exchange.Change.result at h
  rw [happly] at h
  cases h

end Refusals

/-! ### Clusters as they are written -/

/-- A cluster as it is stored after a write of `c`: the store has set its namespace and revision. -/
def IsWritten (c stored : Cluster) : Prop :=
  ∃ ns revision, stored =
    { c with metadata := { c.metadata with ns := ns, revision := revision } }

section Writes

variable {c stored : Cluster}

theorem isWritten_writeCluster (m : Memory) (c : Cluster) : IsWritten c (m.writeCluster c).1 :=
  ⟨_, _, rfl⟩

theorem IsWritten.observed (h : IsWritten c stored) (m : Memory) (status : Option ClusterStatus) :
    IsWritten { c with status := status } (m.observed stored status) := by
  obtain ⟨ns, revision, rfl⟩ := h
  exact ⟨ns, _, rfl⟩

theorem IsWritten.name (h : IsWritten c stored) : stored.name = c.name := by
  obtain ⟨ns, revision, rfl⟩ := h
  rfl

theorem IsWritten.spec (h : IsWritten c stored) : stored.spec = c.spec := by
  obtain ⟨ns, revision, rfl⟩ := h
  rfl

theorem IsWritten.status (h : IsWritten c stored) : stored.status = c.status := by
  obtain ⟨ns, revision, rfl⟩ := h
  rfl

theorem IsWritten.isDated (h : IsWritten c stored) (hc : c.IsDated) : stored.IsDated := by
  unfold Cluster.IsDated
  rw [h.status]
  exact hc

theorem IsWritten.annotations (h : IsWritten c stored) :
    stored.metadata.annotations = c.metadata.annotations := by
  obtain ⟨ns, revision, rfl⟩ := h
  rfl

theorem IsWritten.labels (h : IsWritten c stored) : stored.metadata.labels = c.metadata.labels := by
  obtain ⟨ns, revision, rfl⟩ := h
  rfl

end Writes

/-- What putting a cluster makes of the store: it is created, or the one that is found is replaced. -/
inductive Puts (x : Clusters.Context) (record : Record.Cluster) (m m' : Memory) : Bool → Prop where
  | created {given stored : Cluster} : Clusters.prepare x record = .ok given →
    m.clusters.get? given.name = none → m'.clusters.get? given.name = some stored →
    IsWritten (Exchange.Cluster.stampInstance x.config.instanceName given) stored →
    Puts x record m m' true
  | replaced {given found stored : Cluster} : Clusters.prepare x record = .ok given →
    m.clusters.get? given.name = some found → m'.clusters.get? given.name = some stored →
    IsWritten (Clusters.replaceBy found given) stored → Puts x record m m' false

theorem Puts.exists_prepare {x : Clusters.Context} {record : Record.Cluster} {m m' : Memory}
    {isNew : Bool} (h : Puts x record m m' isNew) :
    ∃ given, Clusters.prepare x record = .ok given := by
  cases h with
  | created hgiven | replaced hgiven => exact ⟨_, hgiven⟩

/-! ### Questions -/

section Questions

variable {e : Errand} {w : World} {client : Client} {α : Type}

/-- A call that an errand begins with. -/
theorem leads_first {c : Call} {D : c.Result → World → Prop}
    (hok : ∀ a, (w.store.answer c).1 = .ok a → D a (w.afterCall c)) :
    Leads w (fun r w' => e.Spares w.store r.status w'.store) D (Task.ask client c) :=
  leads_ask (fun _ herror => spares_call (Memory.HoldsSame.refl _) herror) hok

/-- A call that is all that an errand asks of the store. -/
theorem leads_only (c : Call) : Leads w (fun r w' => e.Spares w.store r.status w'.store)
    (fun _ _ => True) (Task.ask client c) :=
  leads_first (fun _ _ => trivial)

theorem leads_getTenant (id : String) :
    Leads w (fun r w' => e.Spares w.store r.status w'.store)
      (fun found w' => w.store.tenants.get? id = some found ∧ w' = w)
      (Task.ask client (.getTenant id)) := by
  refine leads_first (c := .getTenant id) ?_
  intro found hfound
  rcases Memory.answer_getTenant w.store id with ⟨t, hget, hm⟩ | ⟨error, hm⟩
  · rw [hm] at hfound
    cases hfound
    exact ⟨hget, rfl⟩
  · rw [hm] at hfound
    cases hfound

theorem leads_getCluster (id : String) :
    Leads w (fun r w' => e.Spares w.store r.status w'.store)
      (fun found w' => w.store.clusters.get? id = some found ∧ w' = w)
      (Task.ask client (.getCluster id)) :=
  leads_ask_getCluster id (fun _ =>
    spares_of_holdsSame (Nat.le_of_ble_eq_true rfl) (Memory.HoldsSame.refl _))

/-- A change is worked out before anything is written. -/
theorem leads_change {r : Except Exchange.ChangeError α} :
    Leads w (fun r w' => e.Spares w.store r.status w'.store) (fun a w' => r = .ok a ∧ w' = w)
      (Task.of .change r) :=
  leads_mapError (fun error _ => spares_change error (Memory.HoldsSame.refl _))
    (fun _ h => ⟨h, rfl⟩)

end Questions

namespace Errand

/-- What an errand has half written is a change that did not fail. -/
theorem HalfWritten.not_fails {e : Errand} {m m' : Memory} (h : e.HalfWritten m m')
    {error : Exchange.ChangeError} : ¬ e.Fails m error := by
  obtain ⟨c, hfirst, -⟩ := h.stands
  intro hfails
  cases hfirst with
  | created hnew _ =>
      obtain ⟨x, given, -, hgiven, -⟩ := hnew
      cases e with
      | createCluster x record =>
          have hfails : Clusters.prepare x record = .error (.change error) := hfails
          have hgiven : Clusters.prepare x record = .ok given := hgiven
          rw [hgiven] at hfails
          cases hfails
      | putCluster x id record =>
          have hfails : Clusters.prepare x { record with id := id } = .error (.change error) := hfails
          have hgiven : Clusters.prepare x { record with id := id } = .ok given := hgiven
          rw [hgiven] at hfails
          cases hfails
      | _ => cases hgiven
  | changed hget htake _ =>
      obtain ⟨stored, half, hstored, happly⟩ := hfails
      rw [hget] at hstored
      cases hstored
      exact not_fails_of_result htake happly

/-! ### Tenants -/

section Tenants

variable {w : World} {client : Client}

theorem isSparing_listTenants : listTenants.IsSparing w (Tenants.list client) := by
  unfold Tenants.list
  refine Leads.bind (leads_only .listTenants) ?_
  intro tenants w' _
  exact leads_pure (fun _ h => h)

theorem isSparing_getTenant (id : String) : (getTenant id).IsSparing w (Tenants.get client id) := by
  unfold Tenants.get
  refine Leads.bind (leads_getTenant id) ?_
  intro tenant w' _
  exact leads_pure (fun _ h => h)

theorem isSparing_deleteTenant (id : String) :
    (deleteTenant id).IsSparing w (Tenants.delete client id) :=
  leads_first (c := .deleteTenant id) (fun _ _ _ h => h)

theorem isSparing_createTenant (config : Config) (words : Words) (t : Record.Tenant) :
    (createTenant config words t).IsSparing w (Tenants.create config words client t) := by
  unfold Tenants.create
  refine Leads.bind leads_change ?_
  rintro tenant w' ⟨hprepared, rfl⟩
  have hdone : ∀ error, ¬ (createTenant config words t).Fails w'.store error := by
    intro error hfails
    have hfails : Tenants.prepare config words t = .error error := hfails
    rw [hprepared] at hfails
    cases hfails
  refine Leads.bind (leads_only (.createTenant tenant)) ?_
  intro created w'' _
  exact leads_pure hdone

/-- A tenant that is updated is stored as the properties change it. -/
theorem leads_updateTenant (id : String) (p : Record.TenantProperties) :
    Leads w (fun r w' => (updateTenant id p).Spares w.store r.status w'.store)
      (fun _ w' => ∃ found changed, w.store.tenants.get? id = some found ∧
        (Exchange.Tenant.take p).result found = .ok changed ∧
        w'.store = (w.store.writeTenant changed).2)
      (Tenants.update client id p) := by
  unfold Tenants.update
  refine Leads.bind (leads_getTenant id) ?_
  rintro found w' ⟨hget, rfl⟩
  refine Leads.bind leads_change ?_
  rintro changed w'' ⟨htake, rfl⟩
  refine Leads.bind (M := fun _ w' => w'.store = (w''.store.writeTenant changed).2)
    (leads_first (c := .updateTenant changed) ?_) ?_
  · intro updated hupdated
    rcases Memory.answer_updateTenant w''.store changed with ⟨-, -, -, hm⟩ | ⟨error, hm⟩
    · exact congrArg Prod.snd hm
    · rw [hm] at hupdated
      cases hupdated
  · intro updated w' hstore
    exact leads_pure ⟨found, changed, hget, htake, hstore⟩

theorem isSparing_updateTenant (id : String) (p : Record.TenantProperties) :
    (updateTenant id p).IsSparing w (Tenants.update client id p) := by
  refine (leads_updateTenant id p).mono (fun _ _ h => h) ?_
  rintro _ w' ⟨found, changed, hget, htake, -⟩ error ⟨t, half, ht, happly⟩
  rw [hget] at ht
  cases ht
  exact not_fails_of_result htake happly

end Tenants

/-! ### Clusters -/

section Clusters

variable {e : Errand} {w : World} {client : Client}

/-- A cluster that was written is shown. -/
theorem leads_render {R : Refusal → World → Prop} {D : Record.Cluster → World → Prop}
    {x : Clusters.Context} {c : Cluster} (hc : c.IsDated)
    (hdone : ∀ record, Clusters.show? x.base x.now c = .ok record → D record w) :
    Leads w R D (Clusters.render x c) := by
  obtain ⟨record, hrecord⟩ := exists_show? hc x.base x.now
  unfold Clusters.render
  rw [hrecord]
  exact hdone record hrecord

/-- The observed state of a cluster as stored is refused only if it is to conflict. -/
theorem leads_writeStatus {c written : Cluster} {status : Option ClusterStatus}
    (hget : w.store.clusters.get? written.name = some written) (hwritten : IsWritten c written) :
    Leads w
      (fun r w' => r.status = 409 ∧ status.isSome ∧ status ≠ c.status ∧
        0 < w.store.conflicts ∧ w'.store = { w.store with conflicts := w.store.conflicts - 1 })
      (fun stored w' => w'.store.clusters.get? c.name = some stored ∧
        IsWritten { c with status := status.or c.status } stored)
      (Clusters.writeStatus client written status) := by
  have hname := hwritten.name
  by_cases hsame : status.isNone ∨ written.status = status
  · have hstatus : status.or c.status = c.status := by
      rw [hwritten.status] at hsame
      rcases hsame with hnone | hsame
      · rw [Option.isNone_iff_eq_none.1 hnone, Option.none_or]
      · rw [← hsame, Option.or_self]
    rw [writeStatus_of_same hsame, hstatus]
    exact leads_pure ⟨hname ▸ hget, hwritten⟩
  · rw [writeStatus_of_other hsame]
    rw [not_or, Option.isNone_iff_eq_none, ← ne_eq, ← Option.isSome_iff_ne_none,
      hwritten.status] at hsame
    have hstatus : status.or c.status = status := Option.or_of_isSome hsame.1
    have hanswer := Memory.answer_updateClusterStatus_current
      (c := { written with status := status }) (m := w.store) hget rfl
    refine leads_ask (c := .updateClusterStatus { written with status := status }) ?_ ?_
    · intro error herror
      unfold World.afterCall
      dsimp only
      by_cases hconflicts : 0 < w.store.conflicts
      · rw [if_pos hconflicts] at hanswer
        rw [hanswer] at herror ⊢
        cases herror
        exact ⟨rfl, hsame.1, fun heq => hsame.2 heq.symm, hconflicts, rfl⟩
      · rw [if_neg hconflicts] at hanswer
        rw [hanswer] at herror
        cases herror
    · intro stored hstored
      unfold World.afterCall
      dsimp only
      by_cases hconflicts : 0 < w.store.conflicts
      · rw [if_pos hconflicts] at hanswer
        rw [hanswer] at hstored
        cases hstored
      · rw [if_neg hconflicts] at hanswer
        rw [hanswer] at hstored ⊢
        cases hstored
        rw [hstatus, ← hname]
        exact ⟨(Dict.get?_insert _ _ _ _).trans (if_pos rfl), hwritten.observed _ _⟩

/-- Something is observed of a new cluster only if the record says it. -/
theorem Prepared.asksStatus {given : Cluster} (h : e.Prepared given) (hsome : given.status.isSome) :
    e.AsksStatus := by
  have hprepared : ∀ {x : Clusters.Context} {record : Record.Cluster},
      Clusters.prepare x record = .ok given →
        record.properties.dynamicFacts.isSome ∨ record.properties.compileMeta.isSome := by
    intro x record h
    obtain ⟨id, -, -, -, htake⟩ := exists_of_prepareCluster h
    exact asksStatus_of_result_take htake (fun heq => by rw [heq] at hsome; cases hsome)
  cases e with
  | createCluster x record => exact ⟨_, rfl, hprepared h⟩
  | putCluster x id record =>
      have hsets := hprepared (show Clusters.prepare x { record with id := id } = .ok given from h)
      exact ⟨record.properties, rfl, hsets⟩
  | _ => cases h

theorem leads_prepare {x : Clusters.Context} {record : Record.Cluster} :
    Leads w (fun r w' => e.Spares w.store r.status w'.store)
      (fun given w' => Clusters.prepare x record = .ok given ∧ w' = w)
      (liftM (Clusters.prepare x record) : Task Cluster) := by
  refine leads_except ?_ (fun _ h => ⟨h, rfl⟩)
  intro r hr
  refine spares_of_holdsSame ?_ (Memory.HoldsSame.refl _)
  unfold Clusters.prepare at hr
  split at hr
  · cases hr
    exact Nat.le_refl _
  · cases hdrawn : drawn x.words (Exchange.Cluster.ofRecord record) with
    | ok c =>
        rw [hdrawn] at hr
        cases hr
    | error error =>
        rw [hdrawn] at hr
        cases hr
        exact status_of_change error

/-- The second write of an errand conflicts. -/
theorem halfWritten_of_conflict {c written : Cluster} {m m' m'' : Memory} (hasks : e.AsksStatus)
    (hfirst : FirstWrites m e c) (hwritten : (written, m') = m.writeCluster c)
    (hconflicts : 0 < m'.conflicts) (hrefused : m'' = { m' with conflicts := m'.conflicts - 1 }) :
    e.HalfWritten m m'' := by
  obtain ⟨-, rfl⟩ := Prod.mk.inj hwritten
  exact ⟨hasks, hconflicts, c, hfirst, hrefused⟩

theorem get?_of_written {c written : Cluster} {m m' : Memory}
    (hwritten : (written, m') = m.writeCluster c) :
    m'.clusters.get? written.name = some written := by
  obtain ⟨rfl, rfl⟩ := Prod.mk.inj hwritten
  exact (Dict.get?_insert _ _ _ _).trans (if_pos rfl)

/-- A new cluster is stored without what is observed of it, which is written next. -/
theorem leads_createCluster {c : Cluster} {status : Option ClusterStatus} (hnew : e.NewCluster c)
    (hasks : status.isSome → e.AsksStatus) :
    Leads w (fun r w' => e.Spares w.store r.status w'.store)
      (fun stored w' => w'.store.clusters.get? c.name = some stored ∧
        IsWritten { c with status := status } stored)
      (Task.ask client (.createCluster c) >>= fun created =>
        Clusters.writeStatus client created status) := by
  have hnone : c.status = none := by
    obtain ⟨x, given, -, -, rfl⟩ := hnew
    rfl
  refine Leads.bind (M := fun created w' => w.store.clusters.get? c.name = none ∧
    (created, w'.store) = w.store.writeCluster c) (leads_first (c := .createCluster c) ?_) ?_
  · intro created hcreated
    rcases Memory.answer_createCluster w.store c with ⟨hfree, hm⟩ | ⟨error, hm⟩
    · have hsame : ({ c with status := none } : Cluster) = c := by rw [← hnone]
      rw [hsame] at hm
      unfold World.afterCall
      rw [hm] at hcreated ⊢
      cases hcreated
      exact ⟨hfree, rfl⟩
    · rw [hm] at hcreated
      cases hcreated
  rintro created w' ⟨hfree, hwritten⟩
  have hcreated : IsWritten c created := by
    rw [(Prod.mk.inj hwritten).1]
    exact isWritten_writeCluster w.store c
  refine (leads_writeStatus (get?_of_written hwritten) hcreated).mono ?_ ?_
  · rintro r w'' ⟨h409, hsome, -, hconflicts, hstore⟩
    have hhalf := halfWritten_of_conflict (hasks hsome) (.created hnew hfree) hwritten hconflicts
      hstore
    exact ⟨by omega, Or.inr ⟨h409, hhalf⟩⟩
  · intro stored w'' hstored
    rw [hnone, Option.or_none] at hstored
    exact hstored

/-- Taking properties over takes nothing away of what is observed. -/
theorem status_of_result_take {p : Record.ClusterProperties} {found changed : Cluster}
    (h : (Exchange.Cluster.take p).result found = .ok changed) :
    changed.status.or found.status = changed.status := by
  obtain ⟨template, m, -, -, rfl⟩ := Exchange.Cluster.exists_of_result_take h
  unfold Exchange.Cluster.amended Exchange.Cluster.statusAfter
  dsimp only
  split
  · exact Option.or_self
  · rfl

/-- A changed cluster is written without what is observed of it, which is written next if it changes.
Only the second write may be refused, as a conflict that was to come. -/
theorem leads_rewrite {found changed : Cluster}
    (hget : w.store.clusters.get? changed.name = some found)
    (hrevision : changed.metadata.revision = found.metadata.revision) :
    Leads w
      (fun r w' => r.status = 409 ∧ changed.status ≠ found.status ∧ 0 < w.store.conflicts ∧
        w'.store = { (w.store.writeCluster { changed with status := found.status }).2 with
          conflicts := w.store.conflicts - 1 })
      (fun stored w' => w'.store.clusters.get? changed.name = some stored ∧
        IsWritten { changed with status := changed.status.or found.status } stored)
      (Task.ask client (.updateCluster changed) >>= fun updated =>
        Clusters.writeStatus client updated changed.status) := by
  have hanswer := Memory.answer_updateCluster_current hget hrevision
  refine Leads.bind (M := fun updated w' =>
    (updated, w'.store) = w.store.writeCluster { changed with status := found.status })
    (leads_ask (c := .updateCluster changed) ?_ ?_) ?_
  · intro error herror
    rw [hanswer] at herror
    cases herror
  · intro updated hupdated
    unfold World.afterCall
    rw [hanswer] at hupdated ⊢
    cases hupdated
    rfl
  rintro updated w' hwritten
  have hstore : w'.store = (w.store.writeCluster { changed with status := found.status }).2 :=
    (Prod.mk.inj hwritten).2
  have hupdated : IsWritten { changed with status := found.status } updated := by
    rw [(Prod.mk.inj hwritten).1]
    exact isWritten_writeCluster w.store _
  refine (leads_writeStatus (get?_of_written hwritten) hupdated).mono ?_ (fun _ _ hdone => hdone)
  rintro r w'' ⟨h409, -, hne, hconflicts, hrefused⟩
  rw [hstore] at hconflicts hrefused
  exact ⟨h409, hne, hconflicts, hrefused⟩

theorem leads_updateCluster (client : Client) {x : Clusters.Context} {id : String}
    {p : Record.ClusterProperties} {found changed : Cluster} (hget : w.store.clusters.get? id = some found)
    (hname : changed.name = id) (htake : (Exchange.Cluster.take p).result found = .ok changed) :
    Leads w (fun r w' => (updateCluster x id p).Spares w.store r.status w'.store)
      (fun stored w' => w'.store.clusters.get? id = some stored ∧ IsWritten changed stored)
      (Task.ask client (.updateCluster changed) >>= fun updated =>
        Clusters.writeStatus client updated changed.status) := by
  refine (leads_rewrite (hname ▸ hget) (Exchange.Cluster.revision_of_result_take htake)).mono ?_ ?_
  · rintro r w' ⟨h409, hne, hconflicts, hstore⟩
    have hasks : (updateCluster x id p).AsksStatus := ⟨p, rfl, asksStatus_of_result_take htake hne⟩
    have hhalf := halfWritten_of_conflict hasks (.changed hget htake hne) rfl hconflicts hstore
    exact ⟨by omega, Or.inr ⟨h409, hhalf⟩⟩
  · rintro stored w' ⟨hstored, hshown⟩
    rw [status_of_result_take htake] at hshown
    exact ⟨hname ▸ hstored, hshown⟩

/-- A new cluster is stored with the instance that it is registered with. -/
theorem leads_store {x : Clusters.Context} {given : Cluster} (hx : e.context? = some x)
    (hgiven : e.Prepared given) : Leads w (fun r w' => e.Spares w.store r.status w'.store)
      (fun stored w' => w'.store.clusters.get? given.name = some stored ∧
        IsWritten (Exchange.Cluster.stampInstance x.config.instanceName given) stored)
      (Clusters.store x client given) := by
  refine (leads_createCluster ⟨x, given, hx, hgiven, rfl⟩ hgiven.asksStatus).mono
    (fun _ _ h => h) ?_
  rintro stored w' ⟨hget, ns, revision, hstored⟩
  exact ⟨hget, ns, revision, hstored⟩

/-- A cluster that was made from a record is shown. -/
theorem Prepared.isDated_of_isWritten {x : Clusters.Context} {given stored : Cluster}
    (h : e.Prepared given)
    (hstored : IsWritten (Exchange.Cluster.stampInstance x.config.instanceName given) stored) :
    stored.IsDated := hstored.isDated h.isDated

theorem isSparing_listClusters (x : Clusters.Context) (q : ListQuery) :
    (listClusters x q).IsSparing w (Clusters.list x client q) := by
  unfold Clusters.list
  refine Leads.bind (leads_first
    (c := .listClusters (q.tenant.filter (fun t => !t.isEmpty))) (D := fun _ w' => w' = w)
    (fun _ _ => rfl)) ?_
  rintro clusters w' rfl
  refine Leads.bind leads_change ?_
  rintro records w'' -
  exact leads_pure (fun _ h => h)

theorem isSparing_getCluster (x : Clusters.Context) (id : String) :
    (getCluster x id).IsSparing w (Clusters.get x client id) := by
  unfold Clusters.get
  refine Leads.bind (leads_getCluster id) ?_
  rintro found w' ⟨-, rfl⟩
  exact leads_change.mono (fun _ _ h => h) (fun _ _ _ _ h => h)

theorem isSparing_deleteCluster (id : String) :
    (deleteCluster id).IsSparing w (Clusters.delete client id) :=
  leads_first (c := .deleteCluster id) (fun _ _ _ h => h)

theorem isSparing_createCluster (x : Clusters.Context) (record : Record.Cluster) :
    (createCluster x record).IsSparing w (Clusters.create x client record) := by
  unfold Clusters.create
  refine Leads.bind leads_prepare ?_
  rintro given w' ⟨hprepared, rfl⟩
  have hdone : ∀ error, ¬ (createCluster x record).Fails w'.store error := by
    intro error hfails
    have hfails : Clusters.prepare x record = .error (.change error) := hfails
    rw [hprepared] at hfails
    cases hfails
  refine Leads.bind (leads_store rfl hprepared) ?_
  rintro created w'' ⟨-, hcreated⟩
  have hgiven : (createCluster x record).Prepared given := hprepared
  exact leads_render (hgiven.isDated_of_isWritten hcreated) (fun _ _ => hdone)

theorem isSparing_updateCluster (hs : w.store.IsSound) (hdated : w.store.IsDated)
    (x : Clusters.Context) (id : String) (p : Record.ClusterProperties) :
    (updateCluster x id p).IsSparing w (Clusters.update x client id p) := by
  unfold Clusters.update
  refine Leads.bind (leads_getCluster id) ?_
  rintro found w' ⟨hget, rfl⟩
  refine Leads.bind leads_change ?_
  rintro changed w'' ⟨htake, rfl⟩
  have hdone : ∀ error, ¬ (updateCluster x id p).Fails w''.store error := by
    rintro error ⟨c, half, hc, happly⟩
    rw [hget] at hc
    cases hc
    exact not_fails_of_result htake happly
  have hname : changed.name = id :=
    (Exchange.Cluster.name_of_result_take htake).trans (hs.clusters.named id found hget)
  have hchanged : changed.IsDated := isDated_of_result_take (hdated id found hget) htake
  refine Leads.assoc (Leads.bind (leads_updateCluster client (x := x) hget hname htake) ?_)
  rintro stored w' ⟨-, hstored⟩
  exact leads_render (hstored.isDated hchanged) (fun _ _ => hdone)

/-- A cluster that is there is replaced, even if it cannot be shown then. -/
theorem leads_put_over {x : Clusters.Context} {id : String} {record : Record.Cluster}
    {given found : Cluster} (hgiven : Clusters.prepare x { record with id := id } = .ok given)
    (hget : w.store.clusters.get? given.name = some found) (hname : found.name = given.name) :
    Leads w
      (fun r w' => ∃ error, r = .change error ∧ Clusters.show? x.base x.now
        (w.store.writeCluster (Clusters.replaceBy found given)).1 = .error error ∧
        w'.store = (w.store.writeCluster (Clusters.replaceBy found given)).2)
      (fun put w' => put.1 = false ∧ Clusters.show? x.base x.now
        (w.store.writeCluster (Clusters.replaceBy found given)).1 = .ok put.2 ∧
        w'.store = (w.store.writeCluster (Clusters.replaceBy found given)).2)
      (Clusters.put x client id record) := by
  have hstored : w.store.clusters.get? (Clusters.replaceBy found given).name = some found := by
    rw [show (Clusters.replaceBy found given).name = given.name from hname]
    exact hget
  have hfound : (w.store.answer (.getCluster given.name)).1 = .ok found := by
    simp only [Memory.answer, hget]
    rfl
  have hreplaced : w.store.answer (.updateCluster (Clusters.replaceBy found given)) =
      Memory.written (w.store.writeCluster (Clusters.replaceBy found given)) :=
    Memory.answer_updateCluster_current hstored rfl
  unfold Clusters.put
  rw [hgiven]
  refine Leads.bind (M := fun (r : Except StoreError Cluster) w' => r = .ok found ∧ w' = w)
    (leads_lift ⟨hfound, rfl⟩) ?_
  rintro r w' ⟨rfl, rfl⟩
  dsimp only
  refine Leads.bind (M := fun updated w'' =>
      updated = (w'.store.writeCluster (Clusters.replaceBy found given)).1 ∧
        w''.store = (w'.store.writeCluster (Clusters.replaceBy found given)).2)
    (leads_ask (c := .updateCluster (Clusters.replaceBy found given)) ?_ ?_) ?_
  · intro error herror
    rw [hreplaced] at herror
    cases herror
  · intro updated hupdated
    unfold World.afterCall
    rw [hreplaced] at hupdated ⊢
    cases hupdated
    exact ⟨rfl, rfl⟩
  · rintro updated w'' ⟨rfl, hstore⟩
    refine Leads.bind (M := fun shown w₁ => Clusters.show? x.base x.now
        (w'.store.writeCluster (Clusters.replaceBy found given)).1 = .ok shown ∧ w₁ = w'')
      (leads_mapError ?_ (fun _ hshown => ⟨hshown, rfl⟩)) ?_
    · intro error herror
      exact ⟨error, rfl, herror, hstore⟩
    · rintro shown _ ⟨hshown, rfl⟩
      exact leads_pure ⟨rfl, hshown, hstore⟩

/-- To replace a cluster that is there succeeds. -/
theorem leads_put_found {R : Refusal → World → Prop} {x : Clusters.Context} {id : String}
    {record : Record.Cluster} {given found : Cluster}
    (hgiven : Clusters.prepare x { record with id := id } = .ok given)
    (hget : w.store.clusters.get? given.name = some found) (hname : found.name = given.name)
    (hdated : found.IsDated) :
    Leads w R (fun put w' => put.1 = false ∧ ∃ stored,
        w'.store.clusters.get? given.name = some stored ∧
          IsWritten (Clusters.replaceBy found given) stored)
      (Clusters.put x client id record) := by
  refine (leads_put_over hgiven hget hname).mono ?_ ?_
  · rintro r w' ⟨error, -, hunshown, -⟩
    have hshown : (w.store.writeCluster (Clusters.replaceBy found given)).1.IsDated := hdated
    obtain ⟨record, hrecord⟩ := exists_show? hshown x.base x.now
    rw [hrecord] at hunshown
    cases hunshown
  · rintro put w' ⟨hput, -, hstore⟩
    rw [hstore]
    refine ⟨hput, _, ?_, isWritten_writeCluster w.store _⟩
    exact (Dict.get?_insert _ _ _ _).trans (if_pos hname)

/-- A cluster that is not there is stored, and shown then. -/
theorem leads_put_of_store {R : Refusal → World → Prop} {x : Clusters.Context} {id : String}
    {record : Record.Cluster} {given : Cluster}
    (hgiven : Clusters.prepare x { record with id := id } = .ok given)
    (hget : w.store.clusters.get? given.name = none)
    (hstore : Leads w R (fun stored w' => w'.store.clusters.get? given.name = some stored ∧
      IsWritten (Exchange.Cluster.stampInstance x.config.instanceName given) stored)
      (Clusters.store x client given)) :
    Leads w R
      (fun put w' => put.1 = true ∧ ∃ stored, w'.store.clusters.get? given.name = some stored ∧
        IsWritten (Exchange.Cluster.stampInstance x.config.instanceName given) stored ∧
        Clusters.show? x.base x.now stored = .ok put.2)
      (Clusters.put x client id record) := by
  have hprepared : (putCluster x id record).Prepared given := hgiven
  have hmissing : (w.store.answer (.getCluster given.name)).1 =
      .error (.noObject clusterKind given.name) := by
    simp only [Memory.answer, hget]
    rfl
  unfold Clusters.put
  rw [hgiven]
  refine Leads.bind (M := fun (r : Except StoreError Cluster) w' =>
    r = .error (.noObject clusterKind given.name) ∧ w' = w) (leads_lift ⟨hmissing, rfl⟩) ?_
  rintro r w' ⟨rfl, rfl⟩
  refine Leads.bind hstore ?_
  rintro stored w'' ⟨hstored, hwritten⟩
  refine Leads.bind (M := fun shown w₁ => Clusters.show? x.base x.now stored = .ok shown ∧ w₁ = w'')
    (leads_render (hprepared.isDated_of_isWritten hwritten) (fun _ hshown => ⟨hshown, rfl⟩)) ?_
  rintro shown _ ⟨hshown, rfl⟩
  exact leads_pure ⟨rfl, stored, hstored, hwritten, hshown⟩

/-- A cluster that is not there is created. -/
theorem leads_put_new {x : Clusters.Context} {id : String} {record : Record.Cluster} {given : Cluster}
    (hgiven : Clusters.prepare x { record with id := id } = .ok given)
    (hget : w.store.clusters.get? given.name = none) :
    Leads w (fun r w' => (putCluster x id record).Spares w.store r.status w'.store)
      (fun put w' => put.1 = true ∧ ∃ stored, w'.store.clusters.get? given.name = some stored ∧
        IsWritten (Exchange.Cluster.stampInstance x.config.instanceName given) stored ∧
        Clusters.show? x.base x.now stored = .ok put.2)
      (Clusters.put x client id record) := by
  have hprepared : (putCluster x id record).Prepared given := hgiven
  exact leads_put_of_store hgiven hget (leads_store rfl hprepared)

theorem leads_put (hs : w.store.IsSound) (hdated : w.store.IsDated) {x : Clusters.Context}
    {id : String} {record : Record.Cluster} :
    Leads w (fun r w' => (putCluster x id record).Spares w.store r.status w'.store)
      (fun put w' => Puts x { record with id := id } w.store w'.store put.1)
      (Clusters.put x client id record) := by
  cases hgiven : Clusters.prepare x { record with id := id } with
  | error error =>
      unfold Clusters.put
      refine Leads.bind leads_prepare ?_
      rintro given w' ⟨hprepared, -⟩
      rw [hgiven] at hprepared
      cases hprepared
  | ok given =>
      cases hget : w.store.clusters.get? given.name with
      | none =>
          refine (leads_put_new hgiven hget).mono (fun _ _ h => h) ?_
          rintro ⟨isNew, shown⟩ w' ⟨rfl, stored, hstored, hwritten, -⟩
          exact .created hgiven hget hstored hwritten
      | some found =>
          have hname : found.name = given.name := hs.clusters.named given.name found hget
          refine (leads_put_found hgiven hget hname (hdated _ found hget)).mono
            (fun _ _ h => h) ?_
          rintro ⟨isNew, shown⟩ w' ⟨rfl, stored, hstored, hwritten⟩
          exact .replaced hgiven hget hstored hwritten

theorem isSparing_putCluster (hs : w.store.IsSound) (hdated : w.store.IsDated)
    (x : Clusters.Context) (id : String) (record : Record.Cluster) :
    (putCluster x id record).IsSparing w (Clusters.put x client id record) := by
  refine (leads_put hs hdated).mono (fun _ _ h => h) ?_
  intro put w' hputs error hfails
  obtain ⟨given, hgiven⟩ := hputs.exists_prepare
  have hfails : Clusters.prepare x { record with id := id } = .error (.change error) := hfails
  rw [hgiven] at hfails
  cases hfails

theorem isSparing_reportCompilation (id : String) (report : Record.CompileReport) :
    (reportCompilation id report).IsSparing w (Clusters.reportCompilation client id report) := by
  unfold Clusters.reportCompilation
  refine Leads.bind leads_change ?_
  rintro m w' ⟨hm, rfl⟩
  have hdone : ∀ error, ¬ (reportCompilation id report).Fails w'.store error := by
    intro error hfails
    have hfails : Exchange.Cluster.compileMeta report = .error error := hfails
    rw [hm] at hfails
    cases hfails
  have hattempt : IsAttempt w'.store w' (fun _ _ => True)
      (Clusters.writeCompileMeta client id m) := by
    refine isAttempt_retryOnce ?_
    intro n w'' hsame
    refine isAttempt_getCluster hsame (fun c => ?_) (fun _ => rfl)
    exact isAttempt_call (c := .updateClusterStatus _) hsame (fun _ _ => trivial)
  refine Leads.bind (leads_attempt hattempt) ?_
  rintro r w'' ⟨hr, -⟩
  refine Leads.bind (M := fun _ _ => True) (leads_mapError ?_ (fun _ _ => trivial)) ?_
  · intro error herror
    obtain ⟨hstatus, hsame⟩ := hr error herror
    exact spares_of_holdsSame hstatus hsame
  · intro _ w₁ _
    exact leads_pure hdone

end Clusters

end Errand
end Fleet.Service

import Fleet.Proofs.Exchange.Coherence
import Fleet.Proofs.Ident
import Fleet.Proofs.Service.Reachable
import Fleet.Proofs.Store.Revisions

/-! # Stored objects are well-formed

Whatever identifiers clients give, in bodies or in paths, and whatever is drawn where they give none:
every stored object has the name that it is stored under, a label that tells its kind.  It is in the
namespace of the store and has a revision of its own, and every cluster is labelled with the tenant
that owns it (`Memory.IsWellFormed`).

Main statement: `wellFormed_of_reachable`. -/

namespace Fleet

open Resource Store Service

/-! ### Well-formed objects -/

/-- How the names of a kind start. -/
def Store.Kind.start : Kind → String
  | .tenant => Ident.tenantStart
  | .cluster => Ident.clusterStart

/-- Metadata with a name that is a label and starts as it should. -/
def Resource.Metadata.IsNamed (start : String) (d : Metadata) : Prop :=
  ∃ id, d.name = some id ∧ Ident.IsLabel id ∧ start.toList <+: id.toList

/-- A cluster that is labelled with the tenant that owns it. -/
structure Resource.Cluster.IsOwned (c : Cluster) : Prop where
  tenant : c.spec.tenantRef.name ≠ ""
  label : c.metadata.labels.bind (·.get? Cluster.tenantLabel) = some c.spec.tenantRef.name

/-- Everything in a store is well-formed. -/
structure Store.Memory.IsWellFormed (m : Memory) : Prop where
  /-- Objects are stored under their names. -/
  named : ∀ k n d, m.metadata? k n = some d → d.name = some n
  label : ∀ k n d, m.metadata? k n = some d → Ident.IsLabel n ∧ k.start.toList <+: n.toList
  ns : ∀ k n d, m.metadata? k n = some d → d.ns = some m.ns
  /-- Revisions are not ahead of the counter. -/
  issued : ∀ k n d, m.metadata? k n = some d →
    ∃ i ≤ m.revision, d.revision = some (toString i)
  /-- No two objects have the same revision. -/
  distinct : ∀ k n d k' n' d', m.metadata? k n = some d → m.metadata? k' n' = some d' →
    d.revision = d'.revision → k = k' ∧ n = n'
  owned : ∀ n c, m.clusters.get? n = some c → c.IsOwned

namespace Service

/-! ### New objects and changes -/

/-- What is called as it was drawn, or as the client said. -/
theorem isNamed_of_normalize {words : Words} {given start id : String} {d : Metadata}
    (hid : drawn words (Ident.normalize given start) = .ok id) (hvalid : Ident.isValid id = true)
    (hname : d.name = some id) : d.IsNamed start :=
  ⟨id, hname, Ident.isLabel_of_isValid hvalid, Ident.start_of_normalize hid⟩

theorem Errand.Prepared.isNamed {e : Errand} {c : Cluster} (h : e.Prepared c) :
    c.metadata.IsNamed Ident.clusterStart ∧ c.IsOwned := by
  have hprepared : ∀ {x : Clusters.Context} {record : Record.Cluster},
      Clusters.prepare x record = .ok c →
        c.metadata.IsNamed Ident.clusterStart ∧ c.IsOwned := by
    intro x record h
    obtain ⟨id, htenant, hid, hvalid, htake⟩ := exists_of_prepareCluster h
    obtain ⟨template, m, -, -, rfl⟩ := Exchange.Cluster.exists_of_result_take htake
    have hlabel : (Dict.empty.insert Cluster.tenantLabel record.tenant).get? Cluster.tenantLabel =
        some record.tenant := by simp
    exact ⟨isNamed_of_normalize hid hvalid rfl, htenant, hlabel⟩
  cases e with
  | createCluster x record => exact hprepared h
  | putCluster x id record => exact hprepared h
  | _ => cases h

theorem Errand.NewCluster.isNamed {e : Errand} {c : Cluster} (h : e.NewCluster c) :
    c.metadata.IsNamed Ident.clusterStart ∧ c.IsOwned := by
  obtain ⟨x, given, -, hgiven, rfl⟩ := h
  obtain ⟨hnamed, htenant, hlabel⟩ := hgiven.isNamed
  exact ⟨hnamed, htenant, hlabel⟩

theorem Errand.NewTenant.isNamed {e : Errand} {t : Tenant} (h : e.NewTenant t) :
    t.metadata.IsNamed Ident.tenantStart := by
  cases e with
  | createTenant config words record =>
      obtain ⟨id, t', hid, hvalid, htake, hcomplete⟩ := exists_of_prepareTenant h
      obtain ⟨template, -, rfl⟩ := Exchange.Tenant.exists_of_result_take htake
      refine isNamed_of_normalize hid hvalid ?_
      rw [Exchange.Tenant.metadata_of_result_complete hcomplete]
      rfl
  | _ => cases h

theorem Errand.ChangesTenant.isNamed {e : Errand} {found t : Tenant} {start : String}
    (h : e.ChangesTenant found t) (hfound : found.metadata.IsNamed start) :
    t.metadata.IsNamed start := by
  cases e with
  | updateTenant id p =>
      obtain ⟨template, -, rfl⟩ := Exchange.Tenant.exists_of_result_take h
      exact hfound
  | _ => cases h

/-- A cluster that is moved to another tenant is labelled with that one. -/
theorem isOwned_replaceBy {found given : Cluster} (h : given.IsOwned) :
    (Clusters.replaceBy found given).IsOwned := by
  refine ⟨h.tenant, ?_⟩
  exact (Dict.get?_insert _ _ _ _).trans (if_pos rfl)

theorem Errand.Rewrites.isNamed {e : Errand} {found c : Cluster} {start : String}
    (h : e.Rewrites found c) (hfound : found.metadata.IsNamed start ∧ found.IsOwned) :
    c.metadata.IsNamed start ∧ c.IsOwned := by
  obtain ⟨hnamed, howned⟩ := hfound
  cases e with
  | updateCluster x id p =>
      obtain ⟨template, m, -, -, rfl⟩ := Exchange.Cluster.exists_of_result_take h
      exact ⟨hnamed, howned.tenant, howned.label⟩
  | putCluster x id record =>
      obtain ⟨given, hgiven, -, rfl⟩ := h
      exact ⟨hnamed, isOwned_replaceBy hgiven.isNamed.2⟩
  | _ => cases h

theorem upholds_isNamed : Upholds (fun t => t.metadata.IsNamed Ident.tenantStart)
    (fun c => c.metadata.IsNamed Ident.clusterStart ∧ c.IsOwned) where
  newTenant h := h.isNamed
  changesTenant h hfound := h.isNamed hfound
  newCluster h := h.isNamed
  rewrites h hfound := by
    obtain ⟨hnamed, howned⟩ := h.isNamed hfound
    exact ⟨hnamed, howned.tenant, howned.label⟩
  observes h hfound := by
    rw [h.eq]
    exact ⟨hfound.1, hfound.2.tenant, hfound.2.label⟩
  stampTenant _ _ h := h
  stampCluster _ _ h := ⟨h.1, h.2.tenant, h.2.label⟩

/-! ### Result -/

theorem Entry.Happens.edits {ι : Type} {entry : Entry ι} (h : entry.Happens) :
    Memory.Edits entry.before entry.after := by
  obtain ⟨deed, before, after⟩ := entry
  cases deed with
  | act i action x =>
      cases action with
      | call client c =>
          have hanswer : before.answer c = (x, after) := h
          have hedits := Memory.edits_answer before c
          rw [hanswer] at hedits
          exact hedits
      | _ => exact (show after = before from h) ▸ Memory.edits_refl before
  | touch name => exact (show after = _ from h) ▸ Memory.edits_touchCluster before name
  | conflicts n =>
      have hafter : after = { before with conflicts := n } := h
      rw [hafter]
      exact Memory.edits_of_eq rfl (Nat.le_refl _) rfl rfl

/-- Revisions stay apart, whatever happens to the store. -/
theorem Recorded.isStamped {ι : Type} [DecidableEq ι] {errand : ι → Errand} {start m : Memory}
    {log : Log ι} (h : Recorded errand start log m) (hstart : start.IsStamped) : m.IsStamped := by
  induction h with
  | nil => exact hstart
  | @cons log entry hrest hhappens hallows ih => exact ih.edits hhappens.edits

theorem Reachable.isWellFormed {w : World} (h : Reachable w) : w.store.IsWellFormed := by
  have hstamped : w.store.IsStamped :=
    h.invariant Memory.isStamped_empty (fun hrecorded _ => hrecorded.isStamped)
  have hall := h.all upholds_isNamed
  have hsound := h.isSound
  have hnamed : ∀ k n d, w.store.metadata? k n = some d → d.IsNamed k.start ∧ d.nameAny = n := by
    intro k n d hd
    cases k with
    | tenant =>
        obtain ⟨t, ht, rfl⟩ := Option.map_eq_some_iff.1 hd
        exact ⟨hall.tenants n t ht, hsound.tenants.named n t ht⟩
    | cluster =>
        obtain ⟨c, hc, rfl⟩ := Option.map_eq_some_iff.1 hd
        exact ⟨(hall.clusters n c hc).1, hsound.clusters.named n c hc⟩
  have hlabel : ∀ k n d, w.store.metadata? k n = some d →
      d.name = some n ∧ Ident.IsLabel n ∧ k.start.toList <+: n.toList := by
    intro k n d hd
    obtain ⟨⟨id, hid, hlabel, hstart⟩, hkey⟩ := hnamed k n d hd
    have hsame : id = n := by
      unfold Metadata.nameAny at hkey
      rw [hid] at hkey
      exact hkey
    exact hsame ▸ ⟨hid, hlabel, hstart⟩
  exact {
    named := fun k n d hd => (hlabel k n d hd).1
    label := fun k n d hd => (hlabel k n d hd).2
    ns := hstamped.ns
    issued := hstamped.issued
    distinct := hstamped.distinct
    owned := fun n c hc => (hall.clusters n c hc).2 }

end Service

/-- Whatever requests were made, whatever identifiers they gave and whatever was drawn, everything that
is stored is well-formed. -/
theorem wellFormed_of_reachable {w : World} (h : Reachable w) : w.store.IsWellFormed :=
  h.isWellFormed

/-! #### A cluster that is moved to another tenant -/

namespace Service.Relocation

/-- A client registers a cluster, whose identifier lacks its start. -/
def registration : Http.Request where
  method := "POST"
  path := "/clusters"
  headers := [("authorization", "Bearer abc")]
  body := Text.encode r#"{"id":"east","tenant":"t-1"}"#

/-- The cluster is given to another tenant. -/
def relocation : Http.Request where
  method := "PUT"
  path := "/clusters/c-east"
  headers := [("authorization", "Bearer abc")]
  body := Text.encode r#"{"tenant":"t-2"}"#

def setting : Setting := ⟨{}, ⟨0, 0⟩, fun _ => 0⟩

/-- The world after a request. -/
def after (r : Http.Request) (w : World) : World :=
  (((respond setting r).run (fun a => modifyGet (fun w : World => w.answer a))).run w).2

def world : World := after relocation (after registration (World.empty "fleet" 1))

/-- What is stored of the cluster: its revision, its tenant and its label. -/
def stored? : Option (Option String × String × Option String) :=
  (world.store.clusters.get? "c-east").map (fun c => (c.metadata.revision, c.spec.tenantRef.name,
    c.metadata.labels.bind (·.get? Cluster.tenantLabel)))

theorem wellFormed_of_reachable_relocation : Reachable world ∧
    stored? = some (some "2", "t-2", some "t-2") ∧ world.store.IsWellFormed := by
  have hreachable : Reachable world :=
    .respond setting relocation (.respond setting registration (.empty "fleet" 1))
  refine ⟨hreachable, ?_, wellFormed_of_reachable hreachable⟩
  decide +kernel

end Service.Relocation
end Fleet

import Fleet.Proofs.Exchange.Coherence
import Fleet.Proofs.Service.Reachable

/-! # Stored repositories are coherent

However requests follow one another or are interleaved, the repository template of every stored
tenant and cluster fits its URL (`Memory.IsCoherent`).

Main statement: `coherent_of_reachable`. -/

namespace Fleet

open Resource Store Service

/-- The repository templates of all stored objects fit. -/
structure Store.Memory.IsCoherent (m : Memory) : Prop where
  tenants : ∀ name t, m.tenants.get? name = some t → Exchange.Tenant.IsCoherent t
  clusters : ∀ name c, m.clusters.get? name = some c → Exchange.Cluster.IsCoherent c

namespace Service

/-! ### New objects and changes -/

theorem Errand.Prepared.isCoherent {e : Errand} {c : Cluster} (h : e.Prepared c) :
    Exchange.Cluster.IsCoherent c := by
  have hprepared : ∀ {x : Clusters.Context} {record : Record.Cluster},
      Clusters.prepare x record = .ok c → Exchange.Cluster.IsCoherent c := by
    intro x record h
    obtain ⟨id, -, -, -, htake⟩ := exists_of_prepareCluster h
    have hblank : Exchange.Cluster.IsCoherent (blankCluster id record.tenant) :=
      Exchange.coherent_none _
    exact hblank.take htake
  cases e with
  | createCluster x record => exact hprepared h
  | putCluster x id record => exact hprepared h
  | _ => cases h

theorem Errand.NewCluster.isCoherent {e : Errand} {c : Cluster} (h : e.NewCluster c) :
    Exchange.Cluster.IsCoherent c := by
  obtain ⟨x, given, -, hgiven, rfl⟩ := h
  exact hgiven.isCoherent

theorem Errand.NewTenant.isCoherent {e : Errand} {t : Tenant} (h : e.NewTenant t) :
    Exchange.Tenant.IsCoherent t := by
  cases e with
  | createTenant config words record =>
      obtain ⟨id, t', -, -, htake, hcomplete⟩ := exists_of_prepareTenant h
      have hblank : Exchange.Tenant.IsCoherent (blankTenant id) := Exchange.coherent_none _
      have htaken := hblank.take htake
      have hplaced : Exchange.Tenant.IsCoherent { t' with metadata.ns := some config.ns } := htaken
      exact hplaced.complete hcomplete
  | _ => cases h

theorem Errand.ChangesTenant.isCoherent {e : Errand} {found t : Tenant}
    (h : e.ChangesTenant found t) (hfound : Exchange.Tenant.IsCoherent found) :
    Exchange.Tenant.IsCoherent t := by
  cases e with
  | updateTenant id p => exact hfound.take h
  | _ => cases h

theorem Errand.Rewrites.isCoherent {e : Errand} {found c : Cluster} (h : e.Rewrites found c)
    (hfound : Exchange.Cluster.IsCoherent found) : Exchange.Cluster.IsCoherent c := by
  cases e with
  | updateCluster x id p => exact hfound.take h
  | putCluster x id record =>
      obtain ⟨given, hgiven, hname, rfl⟩ := h
      have hcoherent := hgiven.isCoherent
      unfold Exchange.Cluster.IsCoherent at hcoherent ⊢
      rw [hname] at hcoherent
      exact hcoherent
  | _ => cases h

theorem upholds_isCoherent : Upholds Exchange.Tenant.IsCoherent Exchange.Cluster.IsCoherent where
  newTenant h := h.isCoherent
  changesTenant h hfound := h.isCoherent hfound
  newCluster h := h.isCoherent
  rewrites h hfound := h.isCoherent hfound
  observes h hfound := by
    rw [h.eq]
    exact hfound
  stampTenant _ _ h := h
  stampCluster _ _ h := h

/-! ### Result -/

theorem Reachable.isCoherent {w : World} (h : Reachable w) :
    w.store.IsSound ∧ w.store.IsCoherent := by
  have hall := h.all upholds_isCoherent
  exact ⟨h.isSound, hall.tenants, hall.clusters⟩

end Service

/-- Whatever requests were made, the repository templates of all stored objects fit. -/
theorem coherent_of_reachable {w : World} (h : Reachable w) : w.store.IsCoherent :=
  h.isCoherent.2

/-! #### A new cluster -/

namespace Service.Registration

/-- A client registers a cluster with a repository. -/
def request : Http.Request where
  method := "POST"
  path := "/clusters"
  headers := [("authorization", "Bearer abc")]
  body := Text.encode r#"{"id":"c-1","tenant":"t-1","gitRepo":{"url":"ssh://git@h/g/r.git"}}"#

def setting : Setting := ⟨{}, ⟨0, 0⟩, fun _ => 0⟩

def world : World :=
  (((respond setting request).run (fun a => modifyGet (fun w : World => w.answer a))).run
    (World.empty "fleet" 1)).2

/-- The template of the new cluster. -/
def template? : Option RepoTemplate :=
  (world.store.clusters.get? "c-1").bind (fun c => c.spec.gitRepoTemplate)

theorem coherent_of_reachable_registration : Reachable world ∧
    template?.map (fun t => (t.path, t.repoName)) = some ("g", "r") ∧ world.store.IsCoherent := by
  have hreachable : Reachable world := .respond setting request (.empty "fleet" 1)
  refine ⟨hreachable, ?_, coherent_of_reachable hreachable⟩
  decide +kernel

end Service.Registration
end Fleet

import Fleet.Proofs.Exchange.Merge
import Fleet.Proofs.Service.Objects

/-! # What is stored can be shown

A cluster can be shown if the instant of its last compilation is one of the calendar
(`Cluster.IsDated`).  Requests store no other instants (`upholds_isDated`), so that no request is
refused because of what it stored. -/

namespace Fleet

open Resource Store Service

/-- The instant of the last compilation is one of the calendar. -/
def Resource.Cluster.IsDated (c : Cluster) : Prop :=
  ∀ m t, c.status.bind (·.compileMeta) = some m → m.lastCompile = some t → t.IsCalendar

/-- All stored clusters can be shown. -/
def Store.Memory.IsDated (m : Memory) : Prop :=
  ∀ name c, m.clusters.get? name = some c → c.IsDated

namespace Service

/-- A cluster of which nothing is observed. -/
theorem isDated_of_status_none {c : Cluster} (h : c.status = none) : c.IsDated := by
  intro m t hm
  rw [h] at hm
  cases hm

theorem isDated_of_result_take {p : Record.ClusterProperties} {c c' : Cluster} (h : c.IsDated)
    (htake : (Exchange.Cluster.take p).result c = .ok c') : c'.IsDated := by
  obtain ⟨template, m, -, hreport, rfl⟩ := Exchange.Cluster.exists_of_result_take htake
  intro m' t hm' ht
  have hcases : m = some m' ∨ c.status.bind (·.compileMeta) = some m' := by
    unfold Exchange.Cluster.amended at hm'
    dsimp only at hm'
    rw [Exchange.Cluster.compileMeta_statusAfter, Option.or_eq_some_iff] at hm'
    exact hm'.imp_right And.right
  rcases hcases with rfl | hold
  · cases hgiven : p.compileMeta with
    | none =>
        rw [hgiven] at hreport
        cases hreport
    | some report =>
        rw [hgiven, Option.mapM_some] at hreport
        obtain ⟨m, hm, hsome⟩ := Result.exists_of_map hreport
        cases hsome
        exact (Exchange.Cluster.lastCompile_of_compileMeta hm).2 t ht
  · exact h m' t hold ht

theorem Errand.Prepared.isDated {e : Errand} {c : Cluster} (h : e.Prepared c) : c.IsDated := by
  have hprepared : ∀ {x : Clusters.Context} {record : Record.Cluster},
      Clusters.prepare x record = .ok c → c.IsDated := by
    intro x record h
    obtain ⟨id, -, -, -, htake⟩ := exists_of_prepareCluster h
    exact isDated_of_result_take (isDated_of_status_none rfl) htake
  cases e with
  | createCluster x record => exact hprepared h
  | putCluster x id record => exact hprepared h
  | _ => cases h

/-- A cluster with compile metadata from a report. -/
theorem isDated_setStatus {report : Record.CompileReport} {m : CompileMeta}
    (hm : Exchange.Cluster.compileMeta report = .ok m) (c : Cluster) :
    (Exchange.Cluster.setStatus (fun v s => { s with compileMeta := some v }) m c).IsDated := by
  intro m' t hm' ht
  cases hm'
  exact (Exchange.Cluster.lastCompile_of_compileMeta hm).2 t ht

theorem Errand.Observes.isDated {e : Errand} {found c : Cluster} (h : e.Observes found c)
    (hfound : found.IsDated) : c.IsDated := by
  cases e with
  | updateCluster x id p =>
      obtain ⟨base, changed, hbase, htake, rfl⟩ := h
      have hdated : base.IsDated := by
        unfold Cluster.IsDated at hfound ⊢
        rw [hbase]
        exact hfound
      have hchanged : changed.IsDated := isDated_of_result_take hdated htake
      exact hchanged
  | reportCompilation id report =>
      obtain ⟨m, hm, rfl⟩ := h
      exact isDated_setStatus hm found
  | handshake r now =>
      obtain ⟨token, -, hspent⟩ := h
      obtain ⟨status, t, hstatus, -, -, -, rfl⟩ := exists_of_spend? hspent
      unfold Cluster.IsDated at hfound ⊢
      rw [hstatus] at hfound
      exact hfound
  | _ =>
      obtain ⟨given, hgiven, rfl⟩ := h
      exact hgiven.isDated

theorem upholds_isDated : Upholds (fun _ => True) Cluster.IsDated where
  newTenant _ := trivial
  changesTenant _ _ := trivial
  newCluster h := by
    obtain ⟨x, given, -, -, rfl⟩ := h
    exact isDated_of_status_none rfl
  rewrites _ hfound := hfound
  observes h hfound := h.isDated hfound
  stampTenant _ _ _ := trivial
  stampCluster _ _ h := h

/-- What can be shown of a cluster is shown. -/
theorem exists_show? {c : Cluster} (h : c.IsDated) (base : String) (now : Instant) :
    ∃ record, Clusters.show? base now c = .ok record := by
  obtain ⟨record, hrecord⟩ := Exchange.Cluster.exists_toRecord h
  unfold Clusters.show?
  rw [hrecord]
  exact ⟨_, rfl⟩

end Service
end Fleet

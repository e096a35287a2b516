import Fleet.Proofs.Exchange.Take
import Fleet.Service.Clusters

/-! # New objects

Whatever identifier is drawn, a new object starts from a blank one that has an identifier and takes
the given properties over. -/

namespace Fleet

open Resource Service

/-! ### Identifiers that are given -/

/-- An identifier that is given is not drawn. -/
theorem Ident.drawn_normalize {words : Words} {id start : String} (h : id ≠ "") :
    drawn words (normalize id start) =
      .ok (if start.toList.isPrefixOf id.toList then id else start ++ id) := by
  unfold normalize
  rw [if_neg (fun hempty => h (String.isEmpty_iff.1 hempty))]
  rfl

/-- It stays as it is if it starts as it should. -/
theorem Ident.started_eq_iff {id start : String} :
    (if start.toList.isPrefixOf id.toList then id else start ++ id) = id ↔
      start.toList <+: id.toList := by
  by_cases h : start.toList.isPrefixOf id.toList = true
  · rw [if_pos h]
    exact ⟨fun _ => List.isPrefixOf_iff_prefix.1 h, fun _ => rfl⟩
  · rw [if_neg h]
    constructor
    · intro heq
      rw [← heq, String.toList_append]
      exact List.prefix_append _ _
    · intro hstart
      exact absurd (List.isPrefixOf_iff_prefix.2 hstart) h

namespace Service

theorem drawn_bind {α β : Type} (words : Words) (d : Draw α) (f : α → β) :
    drawn words (d >>= fun a => pure (f a)) = f (drawn words d) := rfl

/-! ### Clusters -/

/-- The blank cluster that a new one starts from. -/
def blankCluster (id tenant : String) : Cluster where
  metadata := Metadata.setLabel { name := some id } Cluster.tenantLabel tenant
  spec := { tenantRef := ⟨tenant⟩ }

theorem drawn_ofClusterRecord (words : Words) (c : Record.Cluster) :
    drawn words (Exchange.Cluster.ofRecord c) =
      match drawn words (Ident.normalize c.id Ident.clusterStart) with
      | .ok id => Exchange.Cluster.ofProperties id c.tenant c.properties
      | .error e => .error (.exhausted e) := by
  refine Eq.trans (congrArg (drawn words) ?_)
    (drawn_bind words (Ident.normalize c.id Ident.clusterStart) (fun r => match r with
      | .ok id => Exchange.Cluster.ofProperties id c.tenant c.properties
      | .error e => .error (.exhausted e)))
  apply bind_congr
  intro r
  cases r <;> rfl

theorem exists_of_drawnCluster {words : Words} {record : Record.Cluster} {c : Cluster}
    (h : drawn words (Exchange.Cluster.ofRecord record) = .ok c) :
    ∃ id, drawn words (Ident.normalize record.id Ident.clusterStart) = .ok id ∧
      Ident.isValid id = true ∧
      (Exchange.Cluster.take record.properties).result (blankCluster id record.tenant) = .ok c := by
  rw [drawn_ofClusterRecord] at h
  split at h
  · next id hid =>
      unfold Exchange.Cluster.ofProperties at h
      split at h
      · next hvalid => exact ⟨id, hid, hvalid, h⟩
      · cases h
  · cases h

theorem exists_of_prepareCluster {x : Clusters.Context} {record : Record.Cluster}
    {given : Cluster} (h : Clusters.prepare x record = .ok given) :
    ∃ id, record.tenant ≠ "" ∧
      drawn x.words (Ident.normalize record.id Ident.clusterStart) = .ok id ∧
      Ident.isValid id = true ∧
      (Exchange.Cluster.take record.properties).result (blankCluster id record.tenant) =
        .ok given := by
  unfold Clusters.prepare at h
  split at h
  · cases h
  · next htenant =>
      have htenant : record.tenant ≠ "" := fun heq => htenant (String.isEmpty_iff.2 heq)
      obtain ⟨id, hid, hvalid, htake⟩ := exists_of_drawnCluster (Result.mapError_eq_ok_iff.1 h)
      exact ⟨id, htenant, hid, hvalid, htake⟩

/-! ### Tenants -/

/-- The blank tenant that a new one starts from. -/
def blankTenant (id : String) : Tenant where
  metadata := { name := some id }

theorem drawn_ofTenantRecord (words : Words) (t : Record.Tenant) :
    drawn words (Exchange.Tenant.ofRecord t) =
      match drawn words (Ident.normalize t.id Ident.tenantStart) with
      | .ok id => Exchange.Tenant.ofProperties id t.properties
      | .error e => .error (.exhausted e) := by
  refine Eq.trans (congrArg (drawn words) ?_)
    (drawn_bind words (Ident.normalize t.id Ident.tenantStart) (fun r => match r with
      | .ok id => Exchange.Tenant.ofProperties id t.properties
      | .error e => .error (.exhausted e)))
  apply bind_congr
  intro r
  cases r <;> rfl

theorem exists_of_drawnTenant {words : Words} {record : Record.Tenant} {t : Tenant}
    (h : drawn words (Exchange.Tenant.ofRecord record) = .ok t) :
    ∃ id, drawn words (Ident.normalize record.id Ident.tenantStart) = .ok id ∧
      Ident.isValid id = true ∧
      (Exchange.Tenant.take record.properties).result (blankTenant id) = .ok t := by
  rw [drawn_ofTenantRecord] at h
  split at h
  · next id hid =>
      unfold Exchange.Tenant.ofProperties at h
      split at h
      · next hvalid => exact ⟨id, hid, hvalid, h⟩
      · cases h
  · cases h

theorem exists_of_prepareTenant {config : Config} {words : Words} {record : Record.Tenant}
    {given : Tenant} (h : Tenants.prepare config words record = .ok given) :
    ∃ id t, drawn words (Ident.normalize record.id Ident.tenantStart) = .ok id ∧
      Ident.isValid id = true ∧
      (Exchange.Tenant.take record.properties).result (blankTenant id) = .ok t ∧
      (Exchange.Tenant.complete (Tenants.defaults config)).result
        { t with metadata.ns := some config.ns } = .ok given := by
  unfold Tenants.prepare at h
  obtain ⟨t, ht, h⟩ := Result.exists_of_bind h
  obtain ⟨id, hid, hvalid, htake⟩ := exists_of_drawnTenant ht
  exact ⟨id, t, hid, hvalid, htake, h⟩

end Service
end Fleet

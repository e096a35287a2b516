import Fleet.Proofs.Store.Memory

/-! # Revisions tell stored objects apart

A step of the store in memory writes one object at most, of whichever kind, and gives it the next
revision (`Memory.Edits`).  So no two stored objects have the same revision, be they of one kind or
not, and all are in the namespace of the store (`Memory.IsStamped`). -/

namespace Fleet.Store

open Resource

/-- The kinds of objects that requests write. -/
inductive Kind where
  | tenant
  | cluster
  deriving DecidableEq, Repr

namespace Memory

variable {m m' : Memory}

/-- The metadata of the object of a kind that is stored under a name. -/
def metadata? (m : Memory) : Kind → String → Option Metadata
  | .tenant, name => (m.tenants.get? name).map Tenant.metadata
  | .cluster, name => (m.clusters.get? name).map Cluster.metadata

/-- Metadata that a step has written under a name: with the next revision, and in the namespace of the
store or of the object that it was written over. -/
structure IsWritten (m : Memory) (kind : Kind) (name : String) (d : Metadata) : Prop where
  revision : d.revision = some (toString (m.revision + 1))
  ns : d.ns = some m.ns ∨ ∃ old, m.metadata? kind name = some old ∧ d.ns = old.ns

/-- What a step does to a store: there is one object at most that it writes, and all others are left
alone or removed. -/
structure Edits (m m' : Memory) : Prop where
  ns : m'.ns = m.ns
  le : m.revision ≤ m'.revision
  entry : ∃ kind name, ∀ k n d, m'.metadata? k n = some d → m.metadata? k n = some d ∨
    k = kind ∧ n = name ∧ m.IsWritten kind name d ∧ m.revision < m'.revision

/-- All objects are in the namespace of the store, with revisions of their own that it gave out. -/
structure IsStamped (m : Memory) : Prop where
  ns : ∀ k n d, m.metadata? k n = some d → d.ns = some m.ns
  issued : ∀ k n d, m.metadata? k n = some d → IsIssued m.revision d
  distinct : ∀ k n d k' n' d', m.metadata? k n = some d → m.metadata? k' n' = some d' →
    d.revision = d'.revision → k = k' ∧ n = n'

theorem IsStamped.edits (h : m.IsStamped) (he : Edits m m') : m'.IsStamped := by
  obtain ⟨kind, name, hentry⟩ := he.entry
  have hold : ∀ {k n d}, m.metadata? k n = some d →
      d.revision ≠ some (toString (m.revision + 1)) := by
    intro k n d hd
    exact (h.issued k n d hd).ne_next
  refine ⟨?_, ?_, ?_⟩
  · intro k n d hd
    rw [he.ns]
    rcases hentry k n d hd with hd | ⟨rfl, rfl, hwritten, -⟩
    · exact h.ns k n d hd
    · rcases hwritten.ns with hns | ⟨old, hget, hns⟩
      · exact hns
      · exact hns.trans (h.ns _ _ old hget)
  · intro k n d hd
    rcases hentry k n d hd with hd | ⟨-, -, hwritten, hlt⟩
    · exact (h.issued k n d hd).mono he.le
    · exact (isIssued_next hwritten.revision).mono hlt
  · intro k n d k' n' d' hd hd' hrevision
    rcases hentry k n d hd with hd | ⟨hk, hn, hwritten, -⟩
    · rcases hentry k' n' d' hd' with hd' | ⟨-, -, hwritten', -⟩
      · exact h.distinct k n d k' n' d' hd hd' hrevision
      · exact absurd (hrevision.trans hwritten'.revision) (hold hd)
    · rcases hentry k' n' d' hd' with hd' | ⟨hk', hn', -, -⟩
      · exact absurd (hrevision.symm.trans hwritten.revision) (hold hd')
      · exact ⟨hk.trans hk'.symm, hn.trans hn'.symm⟩

theorem isStamped_empty (ns : String) : IsStamped { ns } := by
  have hnone : ∀ k n, ({ ns } : Memory).metadata? k n = none := by
    intro k n
    cases k <;> rfl
  refine ⟨?_, ?_, ?_⟩ <;> intro k n d <;> simp [hnone]

/-! ### Steps -/

/-- A step that writes nothing may remove objects. -/
theorem edits_of_removed (hns : m'.ns = m.ns) (hle : m.revision ≤ m'.revision)
    (h : ∀ k n d, m'.metadata? k n = some d → m.metadata? k n = some d) : Edits m m' :=
  ⟨hns, hle, .tenant, "", fun k n d hd => Or.inl (h k n d hd)⟩

theorem edits_of_eq (hns : m'.ns = m.ns) (hle : m.revision ≤ m'.revision)
    (htenants : m'.tenants = m.tenants) (hclusters : m'.clusters = m.clusters) : Edits m m' := by
  refine edits_of_removed hns hle ?_
  intro k n d hd
  cases k with
  | tenant => rwa [metadata?, htenants] at hd
  | cluster => rwa [metadata?, hclusters] at hd

/-- What a dictionary gives after an insertion was there before, or was inserted. -/
theorem map_get?_insert_some {α β : Type} {d : Dict α} {f : α → β} {name n : String} {a : α} {b : β}
    (h : ((d.insert name a).get? n).map f = some b) :
    (d.get? n).map f = some b ∨ n = name ∧ b = f a := by
  rw [Dict.get?_insert] at h
  split at h
  · next hname =>
      cases h
      exact Or.inr ⟨hname.symm, rfl⟩
  · exact Or.inl h

/-- What a dictionary gives after a removal was there before. -/
theorem map_get?_erase_some {α β : Type} {d : Dict α} {f : α → β} {name n : String} {b : β}
    (h : ((d.erase name).get? n).map f = some b) : (d.get? n).map f = some b := by
  rw [Dict.get?_erase] at h
  split at h
  · cases h
  · exact h

theorem edits_insert_tenant {name : String} {t : Tenant}
    (hwritten : m.IsWritten .tenant name t.metadata)
    (h : m' = { m with tenants := m.tenants.insert name t, revision := m.revision + 1 }) :
    Edits m m' := by
  subst h
  refine ⟨rfl, Nat.le_succ _, .tenant, name, ?_⟩
  intro k n d hd
  cases k with
  | cluster => exact Or.inl hd
  | tenant =>
      rcases map_get?_insert_some hd with hd | ⟨hname, rfl⟩
      · exact Or.inl hd
      · exact Or.inr ⟨rfl, hname, hwritten, Nat.lt_succ_self _⟩

theorem edits_insert_cluster {name : String} {c : Cluster}
    (hwritten : m.IsWritten .cluster name c.metadata)
    (h : m' = { m with clusters := m.clusters.insert name c, revision := m.revision + 1 }) :
    Edits m m' := by
  subst h
  refine ⟨rfl, Nat.le_succ _, .cluster, name, ?_⟩
  intro k n d hd
  cases k with
  | tenant => exact Or.inl hd
  | cluster =>
      rcases map_get?_insert_some hd with hd | ⟨hname, rfl⟩
      · exact Or.inl hd
      · exact Or.inr ⟨rfl, hname, hwritten, Nat.lt_succ_self _⟩

theorem edits_erase_tenant (m : Memory) (name : String) :
    Edits m { m with tenants := m.tenants.erase name } := by
  refine edits_of_removed rfl (Nat.le_refl _) ?_
  intro k n d hd
  cases k with
  | cluster => exact hd
  | tenant => exact map_get?_erase_some hd

theorem edits_erase_cluster (m : Memory) (name : String) :
    Edits m { m with clusters := m.clusters.erase name } := by
  refine edits_of_removed rfl (Nat.le_refl _) ?_
  intro k n d hd
  cases k with
  | tenant => exact hd
  | cluster => exact map_get?_erase_some hd

theorem edits_refl (m : Memory) : Edits m m := edits_of_eq rfl (Nat.le_refl _) rfl rfl

/-- Metadata as the store stamps them. -/
theorem isWritten_stamp (m : Memory) (kind : Kind) (name : String) (d : Metadata) :
    m.IsWritten kind name (m.stamp d) := ⟨rfl, Or.inl rfl⟩

/-- A stored cluster with the next revision. -/
theorem isWritten_revised {name : String} {c : Cluster} (hget : m.clusters.get? name = some c) :
    m.IsWritten .cluster name
      { c.metadata with revision := some (toString (m.revision + 1)) } :=
  ⟨rfl, Or.inr ⟨c.metadata, Option.map_eq_some_iff.2 ⟨c, hget, rfl⟩, rfl⟩⟩

theorem edits_answer (m : Memory) (c : Call) : Edits m (m.answer c).2 := by
  cases c with
  | listTenants | getTenant | listClusters | getCluster | listSecrets => exact edits_refl m
  | createTenant t =>
      rcases answer_createTenant m t with ⟨-, hm⟩ | ⟨e, hm⟩
      · rw [hm]; exact edits_insert_tenant (isWritten_stamp m _ t.name _) rfl
      · rw [hm]; exact edits_refl m
  | updateTenant t =>
      rcases answer_updateTenant m t with ⟨-, -, -, hm⟩ | ⟨e, hm⟩
      · rw [hm]; exact edits_insert_tenant (isWritten_stamp m _ t.name _) rfl
      · rw [hm]; exact edits_refl m
  | deleteTenant name => exact edits_erase_tenant m name
  | createCluster c =>
      rcases answer_createCluster m c with ⟨-, hm⟩ | ⟨e, hm⟩
      · rw [hm]; exact edits_insert_cluster (isWritten_stamp m _ c.name _) rfl
      · rw [hm]; exact edits_refl m
  | updateCluster c =>
      rcases answer_updateCluster m c with ⟨stored, -, -, hm⟩ | ⟨e, hm⟩
      · rw [hm]; exact edits_insert_cluster (isWritten_stamp m _ c.name _) rfl
      · rw [hm]; exact edits_refl m
  | updateClusterStatus c =>
      rcases answer_updateClusterStatus m c with ⟨stored, hget, -, hm⟩ | ⟨e, n, hm⟩
      · rw [hm]; exact edits_insert_cluster (isWritten_revised hget) rfl
      · rw [hm]; exact edits_of_eq rfl (Nat.le_refl _) rfl rfl
  | deleteCluster name => exact edits_erase_cluster m name

theorem edits_touchCluster (m : Memory) (name : String) : Edits m (m.touchCluster name) := by
  unfold touchCluster
  cases hget : m.clusters.get? name with
  | none => exact edits_of_eq rfl (Nat.le_succ _) rfl rfl
  | some c => exact edits_insert_cluster (isWritten_revised hget) rfl

/-- However a store was made, its objects are stamped. -/
theorem Built.isStamped (h : m.Built) : m.IsStamped := by
  induction h with
  | empty ns => exact isStamped_empty ns
  | answer c _ ih => exact ih.edits (edits_answer _ c)
  | writeTenant t _ ih => exact ih.edits (edits_insert_tenant (isWritten_stamp _ _ t.name _) rfl)
  | writeCluster c _ ih => exact ih.edits (edits_insert_cluster (isWritten_stamp _ _ c.name _) rfl)
  | insertSecret s _ ih => exact ih.edits (edits_of_eq rfl (Nat.le_refl _) rfl rfl)
  | touchCluster name _ ih => exact ih.edits (edits_touchCluster _ name)
  | conflicts n _ ih => exact ih.edits (edits_of_eq rfl (Nat.le_refl _) rfl rfl)

end Memory
end Fleet.Store

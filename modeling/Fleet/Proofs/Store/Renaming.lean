import Fleet.Proofs.Dict
import Fleet.Proofs.Store.Memory
import Mathlib.Logic.Equiv.Basic

/-! # Stores with other bootstrap tokens

A `Renaming` says for every cluster which bootstrap token stands for which.  The store treats tokens
as opaque: it does to a renamed cluster what it does to the cluster itself, and answers the same with
the clusters renamed (`Memory.updateCluster_rename` and so on).  Calls that neither give nor take a
cluster are answered the same (`Memory.answer_rename`). -/

namespace Fleet

open Resource Store

/-- Which bootstrap token stands for which, by the name of the cluster. -/
abbrev Renaming := String → Equiv.Perm BootstrapToken

/-- None of the tokens that are renamed can be used at that time. -/
def Renaming.IsIdleAt (π : Renaming) (now : Instant) : Prop :=
  ∀ name t, π name t ≠ t → t.usableAt now = false

/-! ### Clusters -/

namespace Resource

/-- The observed state with another bootstrap token, if there is one. -/
def ClusterStatus.rename (f : Equiv.Perm BootstrapToken) (s : ClusterStatus) : ClusterStatus :=
  { s with bootstrapToken := s.bootstrapToken.map f }

theorem ClusterStatus.rename_injective (f : Equiv.Perm BootstrapToken) :
    Function.Injective (ClusterStatus.rename f) := by
  rintro ⟨token, facts, m⟩ ⟨token', facts', m'⟩ h
  obtain ⟨htoken, rfl, rfl⟩ := ClusterStatus.mk.inj h
  obtain rfl := Option.map_injective f.injective htoken
  rfl

/-- The cluster with another bootstrap token, if it has one. -/
def Cluster.rename (π : Renaming) (c : Cluster) : Cluster :=
  { c with status := c.status.map (ClusterStatus.rename (π c.name)) }

variable (π : Renaming) (c : Cluster)

@[simp] theorem Cluster.rename_metadata : (c.rename π).metadata = c.metadata := rfl

@[simp] theorem Cluster.rename_spec : (c.rename π).spec = c.spec := rfl

@[simp] theorem Cluster.rename_name : (c.rename π).name = c.name := rfl

theorem Cluster.bootstrapToken?_rename :
    (c.rename π).bootstrapToken? = c.bootstrapToken?.map (π c.name) := by
  unfold Cluster.bootstrapToken? Cluster.rename
  cases c.status <;> rfl

/-- A cluster stays as it is if its token does. -/
theorem Cluster.rename_eq_self {π : Renaming} {c : Cluster}
    (h : ∀ t, c.bootstrapToken? = some t → π c.name t = t) : c.rename π = c := by
  obtain ⟨metadata, spec, status⟩ := c
  cases status with
  | none => rfl
  | some status =>
      obtain ⟨token, facts, m⟩ := status
      cases token with
      | none => rfl
      | some t =>
          have ht : π (Cluster.name ⟨metadata, spec, some ⟨some t, facts, m⟩⟩) t = t := h t rfl
          unfold Cluster.rename ClusterStatus.rename
          dsimp only
          rw [Option.map_some, Option.map_some, ht]

end Resource

/-! ### Stores -/

namespace Store

/-- The call neither gives nor takes a cluster. -/
def Call.IsQuiet : Call → Prop
  | .listClusters _ | .getCluster _ | .createCluster _ | .updateCluster _
  | .updateClusterStatus _ => False
  | _ => True

namespace Memory

/-- The store with other bootstrap tokens. -/
def rename (π : Renaming) (m : Memory) : Memory :=
  { m with clusters := m.clusters.map (Cluster.rename π) }

variable {π : Renaming} {m : Memory}

theorem get?_rename (π : Renaming) (m : Memory) (name : String) :
    (m.rename π).clusters.get? name = (m.clusters.get? name).map (Cluster.rename π) :=
  Dict.get?_map _ _ _

theorem rename_insert (π : Renaming) (m : Memory) (name : String) (c : Cluster) (n : Nat) :
    ({ m.rename π with
      clusters := (m.rename π).clusters.insert name (c.rename π), revision := n } : Memory) =
      rename π { m with clusters := m.clusters.insert name c, revision := n } := by
  unfold rename
  rw [Dict.map_insert]

theorem answer_rename {c : Call} (h : c.IsQuiet) :
    (m.rename π).answer c = ((m.answer c).1, (m.answer c).2.rename π) := by
  cases c with
  | listTenants | getTenant | deleteTenant | listSecrets => rfl
  | createTenant t =>
      have htenants : (m.rename π).tenants = m.tenants := rfl
      simp only [answer, createTenant, htenants]
      split <;> rfl
  | updateTenant t =>
      have htenants : (m.rename π).tenants = m.tenants := rfl
      simp only [answer, updateTenant, htenants]
      cases m.tenants.get? t.name with
      | none => rfl
      | some stored =>
          dsimp only
          split <;> rfl
  | deleteCluster name =>
      have hfound : ((m.rename π).clusters.get? name).map (fun _ => ()) =
          (m.clusters.get? name).map (fun _ => ()) := by
        rw [get?_rename, Option.map_map]
      have herased : (m.rename π).clusters.erase name = (m.clusters.erase name).map
          (Cluster.rename π) := (Dict.map_erase _ _ _).symm
      exact Prod.ext (congrArg (found clusterKind name) hfound)
        (congrArg (fun d => { m with clusters := d }) herased)
  | listClusters | getCluster | createCluster | updateCluster | updateClusterStatus => cases h

theorem clustersOf_rename (π : Renaming) (m : Memory) (tenant : Option String) :
    (m.rename π).clustersOf tenant = (m.clustersOf tenant).map (Cluster.rename π) := by
  unfold clustersOf rename
  dsimp only
  rw [Dict.values_map, List.filter_map]
  rfl

theorem writeCluster_rename (π : Renaming) (m : Memory) (c : Cluster) :
    (m.rename π).writeCluster (c.rename π) =
      Prod.map (Cluster.rename π) (rename π) (m.writeCluster c) :=
  Prod.ext rfl
    (rename_insert π m c.name { c with metadata := m.stamp c.metadata } (m.revision + 1))

theorem createCluster_rename (π : Renaming) (m : Memory) (c : Cluster) :
    (m.rename π).createCluster (c.rename π) =
      Prod.map (Except.map (Cluster.rename π)) (rename π) (m.createCluster c) := by
  have hcontains : (m.rename π).clusters.contains c.name = m.clusters.contains c.name := by
    unfold Dict.contains
    rw [get?_rename, Option.isSome_map]
  unfold createCluster
  rw [Cluster.rename_name, hcontains]
  split
  · rfl
  · exact congrArg written (writeCluster_rename π m { c with status := none })

theorem updateCluster_rename (hs : m.IsSound) (c : Cluster) :
    (m.rename π).updateCluster (c.rename π) =
      Prod.map (Except.map (Cluster.rename π)) (rename π) (m.updateCluster c) := by
  unfold updateCluster
  rw [Cluster.rename_name, get?_rename]
  cases hget : m.clusters.get? c.name with
  | none => rfl
  | some stored =>
      -- the stored status is renamed by the name it is stored under, which is that of `c`
      have hname : stored.name = c.name := hs.clusters.named _ _ hget
      have hkept : ({ c.rename π with status := (stored.rename π).status } : Cluster) =
          Cluster.rename π { c with status := stored.status } := by
        unfold Cluster.rename
        rw [hname]
        rfl
      dsimp only [Option.map_some]
      rw [Cluster.rename_metadata, Cluster.rename_metadata]
      split
      · exact (congrArg (fun c => written ((m.rename π).writeCluster c)) hkept).trans
          (congrArg written (writeCluster_rename π m _))
      · rfl

theorem writeObserved_rename (π : Renaming) (m : Memory) {stored c : Cluster}
    (hname : stored.name = c.name) :
    (m.rename π).writeObserved c.name (stored.rename π) (c.rename π).status =
      Prod.map (Cluster.rename π) (rename π) (m.writeObserved c.name stored c.status) := by
  have hobserved : (m.rename π).observed (stored.rename π) (c.rename π).status =
      (m.observed stored c.status).rename π := by
    have hrenamed : (m.observed stored c.status).name = c.name := hname
    unfold Cluster.rename
    rw [hrenamed]
    rfl
  unfold writeObserved
  rw [hobserved]
  exact Prod.ext rfl (rename_insert π m c.name _ (m.revision + 1))

theorem updateClusterStatus_rename (hs : m.IsSound) (c : Cluster) :
    (m.rename π).updateClusterStatus (c.rename π) =
      Prod.map (Except.map (Cluster.rename π)) (rename π) (m.updateClusterStatus c) := by
  unfold updateClusterStatus
  rw [Cluster.rename_name, get?_rename]
  change (if 0 < m.conflicts then _ else _) = _
  split
  · rfl
  cases hget : m.clusters.get? c.name with
  | none => rfl
  | some stored =>
      have hname : stored.name = c.name := hs.clusters.named _ _ hget
      dsimp only [Option.map_some]
      rw [Cluster.rename_metadata, Cluster.rename_metadata]
      split
      · exact congrArg written (writeObserved_rename π m hname)
      · rfl

end Memory
end Store
end Fleet

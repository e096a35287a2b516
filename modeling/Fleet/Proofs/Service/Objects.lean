import Fleet.Proofs.Service.Log

/-! # Properties of stored objects

Requests write new objects and changes of stored ones.  A property of single objects that new
objects have, and that the changes keep, is one of all stored objects, however requests follow one
another or are interleaved (`Recorded.all`).  It may be one that only requests of some kind keep
(`UpholdsFor`). -/

namespace Fleet

open Resource Store Service

variable {ι : Type} {T : Tenant → Prop} {C : Cluster → Prop}

/-- Every stored tenant has a property, and every stored cluster another one. -/
structure Store.Memory.All (T : Tenant → Prop) (C : Cluster → Prop) (m : Memory) : Prop where
  tenants : ∀ name t, m.tenants.get? name = some t → T t
  clusters : ∀ name c, m.clusters.get? name = some c → C c

namespace Service

/-- What errands write has the properties if what they found has them.  They concern neither the
namespace nor the revision, which the store writes. -/
structure Upholds (T : Tenant → Prop) (C : Cluster → Prop) : Prop where
  newTenant : ∀ {e : Errand} {t : Tenant}, e.NewTenant t → T t
  changesTenant : ∀ {e : Errand} {found t : Tenant}, e.ChangesTenant found t → T found → T t
  newCluster : ∀ {e : Errand} {c : Cluster}, e.NewCluster c → C c
  rewrites : ∀ {e : Errand} {found c : Cluster}, e.Rewrites found c → C found →
    C { c with status := found.status }
  observes : ∀ {e : Errand} {found c : Cluster}, e.Observes found c → C found → C c
  stampTenant : ∀ {t : Tenant} (ns revision : Option String), T t →
    T { t with metadata := { t.metadata with ns := ns, revision := revision } }
  stampCluster : ∀ {c : Cluster} (ns revision : Option String), C c →
    C { c with metadata := { c.metadata with ns := ns, revision := revision } }

/-- What errands of a kind write has the properties if what they found has them. -/
structure UpholdsFor (E : Errand → Prop) (T : Tenant → Prop) (C : Cluster → Prop) : Prop where
  newTenant : ∀ {e : Errand} {t : Tenant}, E e → e.NewTenant t → T t
  changesTenant : ∀ {e : Errand} {found t : Tenant}, E e → e.ChangesTenant found t → T found → T t
  newCluster : ∀ {e : Errand} {c : Cluster}, E e → e.NewCluster c → C c
  rewrites : ∀ {e : Errand} {found c : Cluster}, E e → e.Rewrites found c → C found →
    C { c with status := found.status }
  observes : ∀ {e : Errand} {found c : Cluster}, E e → e.Observes found c → C found → C c
  stampTenant : ∀ {t : Tenant} (ns revision : Option String), T t →
    T { t with metadata := { t.metadata with ns := ns, revision := revision } }
  stampCluster : ∀ {c : Cluster} (ns revision : Option String), C c →
    C { c with metadata := { c.metadata with ns := ns, revision := revision } }

theorem Upholds.upholdsFor (h : Upholds T C) (E : Errand → Prop) : UpholdsFor E T C where
  newTenant _ := h.newTenant
  changesTenant _ := h.changesTenant
  newCluster _ := h.newCluster
  rewrites _ := h.rewrites
  observes _ := h.observes
  stampTenant := h.stampTenant
  stampCluster := h.stampCluster

/-! ### Steps -/

theorem forall_insert {α : Type} {P : α → Prop} {d : Dict α} {key : String} {a : α}
    (hd : ∀ name b, d.get? name = some b → P b) (ha : P a) :
    ∀ name b, (d.insert key a).get? name = some b → P b := by
  intro name b hget
  rw [Dict.get?_insert] at hget
  split at hget
  · cases hget
    exact ha
  · exact hd name b hget

theorem forall_erase {α : Type} {P : α → Prop} {d : Dict α} {key : String}
    (hd : ∀ name b, d.get? name = some b → P b) :
    ∀ name b, (d.erase key).get? name = some b → P b := by
  intro name b hget
  rw [Dict.get?_erase] at hget
  split at hget
  · cases hget
  · exact hd name b hget

section Steps

variable {E : Errand → Prop} {errand : ι → Errand} {start m m' : Memory} {log : Log ι}

theorem TenantStep.all (h : TenantStep errand m m') (hup : UpholdsFor E T C)
    (he : ∀ i, E (errand i)) (hm : ∀ name t, m.tenants.get? name = some t → T t) :
    ∀ name t, m'.tenants.get? name = some t → T t := by
  cases h with
  | same hsame => rwa [hsame]
  | created hnew hwritten =>
      rw [hwritten]
      exact forall_insert hm (hup.stampTenant _ _ (hup.newTenant (he _) hnew))
  | changed hchanges hget hwritten =>
      rw [hwritten]
      exact forall_insert hm (hup.stampTenant _ _ (hup.changesTenant (he _) hchanges (hm _ _ hget)))
  | deleted herased =>
      rw [herased]
      exact forall_erase hm

theorem ClusterStep.all (h : ClusterStep errand m m') (hup : UpholdsFor E T C)
    (he : ∀ i, E (errand i)) (hm : ∀ name c, m.clusters.get? name = some c → C c) :
    ∀ name c, m'.clusters.get? name = some c → C c := by
  cases h with
  | same hsame => rwa [hsame]
  | @created i c hnew _ hwritten =>
      have hstatus : c.status = none := by
        obtain ⟨x, given, -, -, rfl⟩ := hnew
        rfl
      have hc := hup.stampCluster (some m.ns) (some (toString (m.revision + 1)))
        (hup.newCluster (he i) hnew)
      rw [hwritten, ← hstatus]
      exact forall_insert hm hc
  | rewritten hrewrites hget hwritten =>
      rw [hwritten]
      exact forall_insert hm (hup.stampCluster _ _ (hup.rewrites (he _) hrewrites (hm _ _ hget)))
  | @observed i found c hobserves _ hget hwritten =>
      have hc := hup.observes (he i) hobserves (hm _ _ hget)
      rw [hobserves.eq] at hc
      rw [hwritten]
      exact forall_insert hm (hup.stampCluster found.metadata.ns _ hc)
  | deleted _ herased =>
      rw [herased]
      exact forall_erase hm
  | @touched name found hget hwritten =>
      rw [hwritten]
      exact forall_insert hm (hup.stampCluster found.metadata.ns _ (hm _ _ hget))

variable [DecidableEq ι]

/-- An entry keeps the properties. -/
theorem Remembered.all {entry : Entry ι} (h : Remembered log entry.before)
    (hhappens : entry.Happens)
    (hallows : ∀ i action x, entry.deed = .act i action x →
      (errand i).allows (history i log) action)
    (hup : UpholdsFor E T C) (he : ∀ i, E (errand i)) (hbefore : entry.before.All T C) :
    entry.after.All T C := by
  obtain ⟨htenants, hclusters⟩ := h.objectSteps hhappens hallows
  exact ⟨htenants.all hup he hbefore.tenants, hclusters.all hup he hbefore.clusters⟩

/-- The properties last, whatever happens to the store. -/
theorem Recorded.all (h : Recorded errand start log m) (hs : start.IsSound)
    (hup : Upholds T C) (hstart : start.All T C) : m.All T C := by
  induction h with
  | nil => exact hstart
  | cons hrest hhappens hallows ih =>
      exact (hrest.remembered hs).all hhappens hallows (hup.upholdsFor (fun _ => True))
        (fun _ => trivial) ih

end Steps

end Service
end Fleet

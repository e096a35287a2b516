import Fleet.Proofs.Dict
import Fleet.Store.Memory

/-! # What calls do to the store in memory

The store gives out revisions one after another, and a write is refused if it carries another
revision than the stored object.  So whoever obtained an object and still finds its revision
finds the object itself (`Snapshot`), whatever others did in between.

An object that the store gave out has a revision that the store gave out (`IsIssued`); a step of
the store leaves an object alone, removes it, or gives it the next revision (`Alters`). -/

namespace Fleet.Store

open Resource

/-! ### Objects of one kind -/

section Objects

variable {α : Type} {metadata : α → Metadata} {d d' : Dict α} {n n' : Nat}

/-- Revisions tell numbers apart. -/
theorem toString_injective {i j : Nat} (h : toString i = toString j) : i = j := by
  have hdigits : Nat.toDigits 10 i = Nat.toDigits 10 j := by
    rw [← Nat.toList_repr, ← Nat.toList_repr]
    exact congrArg String.toList h
  rw [← Nat.ofDigitChars_ten_toDigits (n := i), hdigits, Nat.ofDigitChars_ten_toDigits]

/-- The metadata of an object that a store gave out whose last revision is `n`. -/
def IsIssued (n : Nat) (m : Metadata) : Prop := ∃ i ≤ n, m.revision = some (toString i)

theorem IsIssued.mono {m : Metadata} (h : IsIssued n m) (hn : n ≤ n') : IsIssued n' m := by
  obtain ⟨i, hi, hm⟩ := h
  exact ⟨i, Nat.le_trans hi hn, hm⟩

theorem isIssued_next {m : Metadata} (h : m.revision = some (toString (n + 1))) :
    IsIssued (n + 1) m := ⟨n + 1, Nat.le_refl _, h⟩

/-- The next revision was not given out before. -/
theorem IsIssued.ne_next {m : Metadata} (h : IsIssued n m) :
    m.revision ≠ some (toString (n + 1)) := by
  obtain ⟨i, hi, hm⟩ := h
  intro heq
  rw [hm, Option.some.injEq] at heq
  have : i = n + 1 := toString_injective heq
  omega

/-- Objects are stored under their names, with revisions that were given out. -/
structure Sound (metadata : α → Metadata) (d : Dict α) (n : Nat) : Prop where
  named : ∀ name a, d.get? name = some a → (metadata a).nameAny = name
  issued : ∀ name a, d.get? name = some a → IsIssued n (metadata a)

/-- What a step does to the objects of a kind: it leaves an object alone, removes it, or writes
it with the next revision. -/
structure Alters (metadata : α → Metadata) (d d' : Dict α) (n n' : Nat) : Prop where
  le : n ≤ n'
  entry : ∀ name, d'.get? name = d.get? name ∨ d'.get? name = none ∨
    ∃ a, d'.get? name = some a ∧ (metadata a).nameAny = name ∧
      (metadata a).revision = some (toString (n + 1)) ∧ n + 1 ≤ n'

/-- An object as it was obtained: what is stored under its name with its revision is the object
itself. -/
structure Snapshot (metadata : α → Metadata) (d : Dict α) (n : Nat) (a : α) : Prop where
  issued : IsIssued n (metadata a)
  current : ∀ b, d.get? (metadata a).nameAny = some b →
    (metadata b).revision = (metadata a).revision → b = a

theorem Alters.refl (d : Dict α) (h : n ≤ n') : Alters metadata d d n n' :=
  ⟨h, fun _ => Or.inl rfl⟩

theorem Alters.insert (d : Dict α) {name : String} {a : α} (hname : (metadata a).nameAny = name)
    (hrevision : (metadata a).revision = some (toString (n + 1))) :
    Alters metadata d (d.insert name a) n (n + 1) := by
  refine ⟨Nat.le_succ n, ?_⟩
  intro name'
  rw [Dict.get?_insert]
  by_cases h : name = name'
  · subst h
    rw [if_pos rfl]
    exact Or.inr (Or.inr ⟨a, rfl, hname, hrevision, Nat.le_refl _⟩)
  · rw [if_neg h]
    exact Or.inl rfl

theorem Alters.erase (d : Dict α) (name : String) : Alters metadata d (d.erase name) n n := by
  refine ⟨Nat.le_refl n, ?_⟩
  intro name'
  rw [Dict.get?_erase]
  split
  · exact Or.inr (Or.inl rfl)
  · exact Or.inl rfl

theorem Sound.alters (h : Sound metadata d n) (ha : Alters metadata d d' n n') :
    Sound metadata d' n' := by
  constructor
  · intro name a hget
    rcases ha.entry name with hk | hk | ⟨b, hk, hname, -⟩
    · exact h.named name a (hk ▸ hget)
    · rw [hk] at hget; cases hget
    · rw [hk] at hget; cases hget; exact hname
  · intro name a hget
    rcases ha.entry name with hk | hk | ⟨b, hk, -, hrevision, hn⟩
    · exact (h.issued name a (hk ▸ hget)).mono ha.le
    · rw [hk] at hget; cases hget
    · rw [hk] at hget; cases hget; exact (isIssued_next hrevision).mono hn

/-- Whatever happens to the store, a snapshot stays one. -/
theorem Snapshot.alters {a : α} (h : Snapshot metadata d n a) (ha : Alters metadata d d' n n') :
    Snapshot metadata d' n' a := by
  refine ⟨h.issued.mono ha.le, ?_⟩
  intro b hget hrevision
  rcases ha.entry (metadata a).nameAny with hk | hk | ⟨c, hk, -, hnext, -⟩
  · exact h.current b (hk ▸ hget) hrevision
  · rw [hk] at hget; cases hget
  · rw [hk] at hget; cases hget
    exact absurd (hrevision ▸ hnext) h.issued.ne_next

/-- What is stored under its name is a snapshot. -/
theorem Sound.snapshot (h : Sound metadata d n) {name : String} {a : α}
    (hget : d.get? name = some a) : Snapshot metadata d n a := by
  refine ⟨h.issued name a hget, ?_⟩
  intro b hb _
  rw [h.named name a hget, hget] at hb
  exact (Option.some.inj hb).symm

/-- A write that carries the revision of a snapshot finds the snapshot. -/
theorem Snapshot.eq_stored {a stored : α} {incoming : Metadata} (h : Snapshot metadata d n a)
    (hget : d.get? (metadata a).nameAny = some stored)
    (hrevision : incoming.revision = (metadata a).revision)
    (hcurrent : Memory.isCurrent (metadata stored) incoming = true) : stored = a := by
  obtain ⟨i, -, hi⟩ := h.issued
  unfold Memory.isCurrent at hcurrent
  rw [hrevision, hi, Option.isNone_some, Bool.false_or, beq_iff_eq] at hcurrent
  exact h.current stored hget (by rw [← hcurrent, hi])

end Objects

namespace Memory

/-! ### Stores -/

/-- Every way to make a store: calls, objects put into it by hand, writes of others, and conflicts
to come. -/
inductive Built : Memory → Prop where
  | empty (ns : String) : Built { ns }
  | answer {m : Memory} (c : Call) : Built m → Built (m.answer c).2
  | writeTenant {m : Memory} (t : Tenant) : Built m → Built (m.writeTenant t).2
  | writeCluster {m : Memory} (c : Cluster) : Built m → Built (m.writeCluster c).2
  | insertSecret {m : Memory} (s : Secret) : Built m → Built (m.insertSecret s)
  | touchCluster {m : Memory} (name : String) : Built m → Built (m.touchCluster name)
  | conflicts {m : Memory} (n : Nat) : Built m → Built { m with conflicts := n }

/-- Everything is stored under its name, with a revision that was given out. -/
structure IsSound (m : Memory) : Prop where
  tenants : Sound Tenant.metadata m.tenants m.revision
  clusters : Sound Cluster.metadata m.clusters m.revision

/-- What a step does to a store. -/
structure Steps (m m' : Memory) : Prop where
  tenants : Alters Tenant.metadata m.tenants m'.tenants m.revision m'.revision
  clusters : Alters Cluster.metadata m.clusters m'.clusters m.revision m'.revision

theorem Steps.refl (m : Memory) : Steps m m :=
  ⟨Alters.refl _ (Nat.le_refl _), Alters.refl _ (Nat.le_refl _)⟩

theorem IsSound.steps {m m' : Memory} (h : IsSound m) (hs : Steps m m') : IsSound m' :=
  ⟨h.tenants.alters hs.tenants, h.clusters.alters hs.clusters⟩

theorem steps_writeTenant (m : Memory) (t : Tenant) : Steps m (m.writeTenant t).2 :=
  ⟨Alters.insert _ rfl rfl, Alters.refl _ (Nat.le_succ _)⟩

theorem steps_writeCluster (m : Memory) (c : Cluster) : Steps m (m.writeCluster c).2 :=
  ⟨Alters.refl _ (Nat.le_succ _), Alters.insert _ rfl rfl⟩

theorem steps_touchCluster {m : Memory} (h : IsSound m) (name : String) :
    Steps m (m.touchCluster name) := by
  refine ⟨Alters.refl _ (Nat.le_succ _), ?_⟩
  unfold touchCluster
  dsimp only
  cases hget : m.clusters.get? name with
  | none => exact Alters.refl _ (Nat.le_succ _)
  | some c => exact Alters.insert _ (h.clusters.named name c hget) rfl

theorem steps_conflicts (m : Memory) (n : Nat) : Steps m { m with conflicts := n } :=
  ⟨Alters.refl _ (Nat.le_refl _), Alters.refl _ (Nat.le_refl _)⟩

/-! ### Answers -/

theorem answer_getTenant (m : Memory) (name : String) :
    (∃ t, m.tenants.get? name = some t ∧ m.answer (.getTenant name) = (.ok t, m)) ∨
      ∃ e, m.answer (.getTenant name) = (.error e, m) := by
  simp only [answer]
  cases hget : m.tenants.get? name with
  | none => exact Or.inr ⟨_, rfl⟩
  | some t => exact Or.inl ⟨t, rfl, rfl⟩

theorem answer_getCluster (m : Memory) (name : String) :
    (∃ c, m.clusters.get? name = some c ∧ m.answer (.getCluster name) = (.ok c, m)) ∨
      ∃ e, m.answer (.getCluster name) = (.error e, m) := by
  simp only [answer]
  cases hget : m.clusters.get? name with
  | none => exact Or.inr ⟨_, rfl⟩
  | some c => exact Or.inl ⟨c, rfl, rfl⟩

theorem answer_createTenant (m : Memory) (t : Tenant) :
    m.tenants.get? t.name = none ∧ m.answer (.createTenant t) = written (m.writeTenant t) ∨
      ∃ e, m.answer (.createTenant t) = (.error e, m) := by
  simp only [answer, createTenant]
  split
  · exact Or.inr ⟨_, rfl⟩
  · next h => exact Or.inl ⟨Dict.contains_eq_false_iff.1 (by simpa using h), rfl⟩

theorem answer_updateTenant (m : Memory) (t : Tenant) :
    (∃ stored, m.tenants.get? t.name = some stored ∧ isCurrent stored.metadata t.metadata = true ∧
        m.answer (.updateTenant t) = written (m.writeTenant t)) ∨
      ∃ e, m.answer (.updateTenant t) = (.error e, m) := by
  simp only [answer, updateTenant]
  cases hget : m.tenants.get? t.name with
  | none => exact Or.inr ⟨_, rfl⟩
  | some stored =>
      dsimp only
      split
      · next h => exact Or.inl ⟨stored, rfl, h, rfl⟩
      · exact Or.inr ⟨_, rfl⟩

theorem answer_createCluster (m : Memory) (c : Cluster) :
    m.clusters.get? c.name = none ∧
        m.answer (.createCluster c) = written (m.writeCluster { c with status := none }) ∨
      ∃ e, m.answer (.createCluster c) = (.error e, m) := by
  simp only [answer, createCluster]
  split
  · exact Or.inr ⟨_, rfl⟩
  · next h => exact Or.inl ⟨Dict.contains_eq_false_iff.1 (by simpa using h), rfl⟩

theorem answer_updateCluster (m : Memory) (c : Cluster) :
    (∃ stored, m.clusters.get? c.name = some stored ∧
        isCurrent stored.metadata c.metadata = true ∧
        m.answer (.updateCluster c) = written (m.writeCluster { c with status := stored.status })) ∨
      ∃ e, m.answer (.updateCluster c) = (.error e, m) := by
  simp only [answer, updateCluster]
  cases hget : m.clusters.get? c.name with
  | none => exact Or.inr ⟨_, rfl⟩
  | some stored =>
      dsimp only
      split
      · next h => exact Or.inl ⟨stored, rfl, h, rfl⟩
      · exact Or.inr ⟨_, rfl⟩

/-- A stored cluster with another observed state, as it is written. -/
def observed (m : Memory) (stored : Cluster) (status : Option ClusterStatus) : Cluster :=
  { stored with
    status := status
    metadata.revision := some (toString (m.revision + 1)) }

/-- The store with the observed state of a cluster written. -/
def writeObserved (m : Memory) (name : String) (stored : Cluster)
    (status : Option ClusterStatus) : Cluster × Memory :=
  (m.observed stored status, { m with
    clusters := m.clusters.insert name (m.observed stored status)
    revision := m.revision + 1 })

theorem answer_updateClusterStatus (m : Memory) (c : Cluster) :
    (∃ stored, m.clusters.get? c.name = some stored ∧
        isCurrent stored.metadata c.metadata = true ∧
        m.answer (.updateClusterStatus c) = written (m.writeObserved c.name stored c.status)) ∨
      ∃ e n, m.answer (.updateClusterStatus c) = (.error e, { m with conflicts := n }) := by
  simp only [answer, updateClusterStatus]
  split
  · exact Or.inr ⟨_, m.conflicts - 1, rfl⟩
  · cases hget : m.clusters.get? c.name with
    | none => exact Or.inr ⟨_, m.conflicts, rfl⟩
    | some stored =>
        dsimp only
        split
        · next h => exact Or.inl ⟨stored, rfl, h, rfl⟩
        · exact Or.inr ⟨_, m.conflicts, rfl⟩

theorem answer_deleteTenant {m : Memory} {name : String} (h : (m.tenants.get? name).isSome) :
    (m.answer (.deleteTenant name)).1 = .ok () := by
  obtain ⟨t, ht⟩ := Option.isSome_iff_exists.1 h
  simp only [answer, ht]
  rfl

theorem answer_deleteCluster {m : Memory} {name : String} (h : (m.clusters.get? name).isSome) :
    (m.answer (.deleteCluster name)).1 = .ok () := by
  obtain ⟨c, hc⟩ := Option.isSome_iff_exists.1 h
  simp only [answer, hc]
  rfl

/-! ### Calls -/

theorem steps_answer {m : Memory} (h : IsSound m) (c : Call) : Steps m (m.answer c).2 := by
  cases c with
  | listTenants | getTenant | listClusters | getCluster | listSecrets => exact Steps.refl m
  | createTenant t =>
      rcases answer_createTenant m t with ⟨-, hm⟩ | ⟨e, hm⟩
      · rw [hm]; exact steps_writeTenant m t
      · rw [hm]; exact Steps.refl m
  | updateTenant t =>
      rcases answer_updateTenant m t with ⟨-, -, -, hm⟩ | ⟨e, hm⟩
      · rw [hm]; exact steps_writeTenant m t
      · rw [hm]; exact Steps.refl m
  | deleteTenant name => exact ⟨Alters.erase _ name, Alters.refl _ (Nat.le_refl _)⟩
  | createCluster c =>
      rcases answer_createCluster m c with ⟨-, hm⟩ | ⟨e, hm⟩
      · rw [hm]; exact steps_writeCluster m _
      · rw [hm]; exact Steps.refl m
  | updateCluster c =>
      rcases answer_updateCluster m c with ⟨stored, -, -, hm⟩ | ⟨e, hm⟩
      · rw [hm]; exact steps_writeCluster m _
      · rw [hm]; exact Steps.refl m
  | updateClusterStatus c =>
      rcases answer_updateClusterStatus m c with ⟨stored, hget, -, hm⟩ | ⟨e, n, hm⟩
      · rw [hm]
        have hname : stored.name = c.name := h.clusters.named c.name stored hget
        exact ⟨Alters.refl _ (Nat.le_succ _), Alters.insert _ hname rfl⟩
      · rw [hm]; exact steps_conflicts m n
  | deleteCluster name => exact ⟨Alters.refl _ (Nat.le_refl _), Alters.erase _ name⟩

/-- The stores hold the same, down to the last revision given out; they may differ in the conflicts to
come. -/
def HoldsSame (m m' : Memory) : Prop := ∃ n, m' = { m with conflicts := n }

theorem HoldsSame.refl (m : Memory) : HoldsSame m m := ⟨m.conflicts, rfl⟩

theorem HoldsSame.trans {m m' m'' : Memory} (h : HoldsSame m m') (h' : HoldsSame m' m'') :
    HoldsSame m m'' := by
  obtain ⟨n, rfl⟩ := h
  obtain ⟨n', rfl⟩ := h'
  exact ⟨n', rfl⟩

/-- A call that fails leaves everything as it is. -/
theorem holdsSame_of_error {m : Memory} {c : Call} {e : StoreError}
    (h : (m.answer c).1 = .error e) : HoldsSame m (m.answer c).2 := by
  have hsame : ∀ {r : c.Answer × Memory}, m.answer c = r → r.2 = m →
      HoldsSame m (m.answer c).2 := by
    rintro r hr hm
    rw [hr, hm]
    exact HoldsSame.refl m
  cases c with
  | listTenants | getTenant | listClusters | getCluster | listSecrets => exact HoldsSame.refl m
  | createTenant t =>
      rcases answer_createTenant m t with ⟨-, hm⟩ | ⟨e, hm⟩
      · rw [hm] at h; cases h
      · exact hsame hm rfl
  | updateTenant t =>
      rcases answer_updateTenant m t with ⟨-, -, -, hm⟩ | ⟨e, hm⟩
      · rw [hm] at h; cases h
      · exact hsame hm rfl
  | deleteTenant name =>
      have hnone : m.tenants.get? name = none := by
        cases hget : m.tenants.get? name with
        | none => rfl
        | some t =>
            rw [answer_deleteTenant (by rw [hget]; rfl)] at h
            cases h
      refine hsame rfl ?_
      exact congrArg (fun d => { m with tenants := d }) (Dict.erase_of_get?_none hnone)
  | createCluster c =>
      rcases answer_createCluster m c with ⟨-, hm⟩ | ⟨e, hm⟩
      · rw [hm] at h; cases h
      · exact hsame hm rfl
  | updateCluster c =>
      rcases answer_updateCluster m c with ⟨stored, -, -, hm⟩ | ⟨e, hm⟩
      · rw [hm] at h; cases h
      · exact hsame hm rfl
  | updateClusterStatus c =>
      rcases answer_updateClusterStatus m c with ⟨stored, -, -, hm⟩ | ⟨e, n, hm⟩
      · rw [hm] at h; cases h
      · rw [hm]; exact ⟨n, rfl⟩
  | deleteCluster name =>
      have hnone : m.clusters.get? name = none := by
        cases hget : m.clusters.get? name with
        | none => rfl
        | some c =>
            rw [answer_deleteCluster (by rw [hget]; rfl)] at h
            cases h
      refine hsame rfl ?_
      exact congrArg (fun d => { m with clusters := d }) (Dict.erase_of_get?_none hnone)

/-! ### Writes that are based on what is stored -/

theorem isCurrent_of_revision {stored incoming : Metadata}
    (h : incoming.revision = stored.revision) : isCurrent stored incoming = true := by
  unfold isCurrent
  rw [h, beq_self_eq_true, Bool.or_true]

/-- The write of a cluster that is based on what is stored. -/
theorem answer_updateCluster_current {m : Memory} {c stored : Cluster}
    (hget : m.clusters.get? c.name = some stored)
    (hrevision : c.metadata.revision = stored.metadata.revision) :
    m.answer (.updateCluster c) =
      written (m.writeCluster { c with status := stored.status }) := by
  have hcurrent := isCurrent_of_revision hrevision
  simp only [answer, updateCluster]
  rw [hget]
  dsimp only
  rw [if_pos hcurrent]

/-- The write of an observed state that is based on what is stored: it is refused only if it is to
conflict. -/
theorem answer_updateClusterStatus_current {m : Memory} {c stored : Cluster}
    (hget : m.clusters.get? c.name = some stored)
    (hrevision : c.metadata.revision = stored.metadata.revision) :
    m.answer (.updateClusterStatus c) =
      if 0 < m.conflicts then
        (.error (.modified clusterKind c.name), { m with conflicts := m.conflicts - 1 })
      else written (m.writeObserved c.name stored c.status) := by
  have hcurrent := isCurrent_of_revision hrevision
  simp only [answer, updateClusterStatus]
  split
  · rfl
  · rw [hget]
    dsimp only
    rw [if_pos hcurrent]
    rfl

/-! ### Stores of any make -/

theorem Built.isSound {m : Memory} (h : Built m) : IsSound m := by
  induction h with
  | empty ns => constructor <;> constructor <;> intro name a hget <;> cases hget
  | answer c _ ih => exact ih.steps (steps_answer ih c)
  | writeTenant t _ ih => exact ih.steps (steps_writeTenant _ t)
  | writeCluster c _ ih => exact ih.steps (steps_writeCluster _ c)
  | insertSecret s _ ih => exact ⟨ih.tenants, ih.clusters⟩
  | touchCluster name _ ih => exact ih.steps (steps_touchCluster ih name)
  | conflicts n _ ih => exact ih.steps (steps_conflicts _ n)

end Memory

/-! ### What calls give -/

/-- The tenants that a call gives. -/
def Call.tenants : (c : Call) → c.Answer → List Tenant
  | .listTenants, .ok l => l
  | .getTenant _, .ok t => [t]
  | .createTenant _, .ok t => [t]
  | .updateTenant _, .ok t => [t]
  | _, _ => []

/-- The clusters that a call gives. -/
def Call.clusters : (c : Call) → c.Answer → List Cluster
  | .listClusters _, .ok l => l
  | .getCluster _, .ok c => [c]
  | .createCluster _, .ok c => [c]
  | .updateCluster _, .ok c => [c]
  | .updateClusterStatus _, .ok c => [c]
  | _, _ => []

namespace Memory

/-- What a call gives is what is stored right after it. -/
theorem get?_of_mem_tenants {m : Memory} (h : IsSound m) (call : Call) {t : Tenant}
    (ht : t ∈ call.tenants (m.answer call).1) :
    (m.answer call).2.tenants.get? t.name = some t := by
  cases call with
  | listTenants =>
      obtain ⟨name, hget⟩ := Dict.exists_get?_of_mem_values (d := m.tenants) ht
      have hname : t.name = name := h.tenants.named name t hget
      exact hname ▸ hget
  | getTenant name =>
      rcases answer_getTenant m name with ⟨t', hget, hm⟩ | ⟨e, hm⟩
      · rw [hm] at ht ⊢
        cases List.mem_singleton.1 ht
        have hname : t.name = name := h.tenants.named name t hget
        exact hname ▸ hget
      · rw [hm] at ht; cases ht
  | createTenant t' =>
      rcases answer_createTenant m t' with ⟨-, hm⟩ | ⟨e, hm⟩
      · rw [hm] at ht ⊢
        cases List.mem_singleton.1 ht
        exact (Dict.get?_insert _ _ _ _).trans (if_pos rfl)
      · rw [hm] at ht; cases ht
  | updateTenant t' =>
      rcases answer_updateTenant m t' with ⟨-, -, -, hm⟩ | ⟨e, hm⟩
      · rw [hm] at ht ⊢
        cases List.mem_singleton.1 ht
        exact (Dict.get?_insert _ _ _ _).trans (if_pos rfl)
      · rw [hm] at ht; cases ht
  | deleteTenant | listClusters | getCluster | createCluster | updateCluster
  | updateClusterStatus | deleteCluster | listSecrets => cases ht

theorem get?_of_mem_clusters {m : Memory} (h : IsSound m) (call : Call) {c : Cluster}
    (hc : c ∈ call.clusters (m.answer call).1) :
    (m.answer call).2.clusters.get? c.name = some c := by
  cases call with
  | listClusters tenant =>
      have hmem : c ∈ m.clusters.values := (List.mem_filter.1 hc).1
      obtain ⟨name, hget⟩ := Dict.exists_get?_of_mem_values hmem
      have hname : c.name = name := h.clusters.named name c hget
      exact hname ▸ hget
  | getCluster name =>
      rcases answer_getCluster m name with ⟨c', hget, hm⟩ | ⟨e, hm⟩
      · rw [hm] at hc ⊢
        cases List.mem_singleton.1 hc
        have hname : c.name = name := h.clusters.named name c hget
        exact hname ▸ hget
      · rw [hm] at hc; cases hc
  | createCluster c' =>
      rcases answer_createCluster m c' with ⟨-, hm⟩ | ⟨e, hm⟩
      · rw [hm] at hc ⊢
        cases List.mem_singleton.1 hc
        exact (Dict.get?_insert _ _ _ _).trans (if_pos rfl)
      · rw [hm] at hc; cases hc
  | updateCluster c' =>
      rcases answer_updateCluster m c' with ⟨stored, -, -, hm⟩ | ⟨e, hm⟩
      · rw [hm] at hc ⊢
        cases List.mem_singleton.1 hc
        exact (Dict.get?_insert _ _ _ _).trans (if_pos rfl)
      · rw [hm] at hc; cases hc
  | updateClusterStatus c' =>
      rcases answer_updateClusterStatus m c' with ⟨stored, hget, -, hm⟩ | ⟨e, n, hm⟩
      · rw [hm] at hc ⊢
        cases List.mem_singleton.1 hc
        refine (Dict.get?_insert _ _ _ _).trans (if_pos ?_)
        exact (h.clusters.named c'.name stored hget).symm
      · rw [hm] at hc; cases hc
  | listTenants | getTenant | createTenant | updateTenant | deleteTenant | deleteCluster
  | listSecrets => cases hc

/-- A call writes one tenant at most, or deletes one. -/
theorem tenants_answer (m : Memory) (c : Call) : (m.answer c).2.tenants = m.tenants ∨
    (∃ name t, (m.answer c).2.tenants = m.tenants.insert name t) ∨
      ∃ name, c = .deleteTenant name ∧ (m.answer c).2.tenants = m.tenants.erase name := by
  cases c with
  | createTenant t =>
      rcases answer_createTenant m t with ⟨-, hm⟩ | ⟨e, hm⟩
      · rw [hm]; exact Or.inr (Or.inl ⟨_, _, rfl⟩)
      · rw [hm]; exact Or.inl rfl
  | updateTenant t =>
      rcases answer_updateTenant m t with ⟨-, -, -, hm⟩ | ⟨e, hm⟩
      · rw [hm]; exact Or.inr (Or.inl ⟨_, _, rfl⟩)
      · rw [hm]; exact Or.inl rfl
  | deleteTenant name => exact Or.inr (Or.inr ⟨name, rfl, rfl⟩)
  | createCluster c =>
      rcases answer_createCluster m c with ⟨-, hm⟩ | ⟨e, hm⟩ <;> rw [hm] <;> exact Or.inl rfl
  | updateCluster c =>
      rcases answer_updateCluster m c with ⟨stored, -, -, hm⟩ | ⟨e, hm⟩ <;> rw [hm] <;>
        exact Or.inl rfl
  | updateClusterStatus c =>
      rcases answer_updateClusterStatus m c with ⟨stored, -, -, hm⟩ | ⟨e, n, hm⟩ <;> rw [hm] <;>
        exact Or.inl rfl
  | listTenants | getTenant | listClusters | getCluster | deleteCluster | listSecrets =>
      exact Or.inl rfl

/-- A call writes one cluster at most, or deletes one. -/
theorem clusters_answer (m : Memory) (c : Call) : (m.answer c).2.clusters = m.clusters ∨
    (∃ name c', (m.answer c).2.clusters = m.clusters.insert name c') ∨
      ∃ name, c = .deleteCluster name ∧ (m.answer c).2.clusters = m.clusters.erase name := by
  cases c with
  | createTenant t =>
      rcases answer_createTenant m t with ⟨-, hm⟩ | ⟨e, hm⟩ <;> rw [hm] <;> exact Or.inl rfl
  | updateTenant t =>
      rcases answer_updateTenant m t with ⟨-, -, -, hm⟩ | ⟨e, hm⟩ <;> rw [hm] <;> exact Or.inl rfl
  | createCluster c =>
      rcases answer_createCluster m c with ⟨-, hm⟩ | ⟨e, hm⟩
      · rw [hm]; exact Or.inr (Or.inl ⟨_, _, rfl⟩)
      · rw [hm]; exact Or.inl rfl
  | updateCluster c =>
      rcases answer_updateCluster m c with ⟨stored, -, -, hm⟩ | ⟨e, hm⟩
      · rw [hm]; exact Or.inr (Or.inl ⟨_, _, rfl⟩)
      · rw [hm]; exact Or.inl rfl
  | updateClusterStatus c =>
      rcases answer_updateClusterStatus m c with ⟨stored, -, -, hm⟩ | ⟨e, n, hm⟩
      · rw [hm]; exact Or.inr (Or.inl ⟨_, _, rfl⟩)
      · rw [hm]; exact Or.inl rfl
  | deleteCluster name => exact Or.inr (Or.inr ⟨name, rfl, rfl⟩)
  | listTenants | getTenant | deleteTenant | listClusters | getCluster | listSecrets =>
      exact Or.inl rfl

/-- Listed clusters have names of their own. -/
theorem nodup_clustersOf {m : Memory} (h : IsSound m) (tenant : Option String) :
    ((m.clustersOf tenant).map Cluster.name).Nodup :=
  (Dict.nodup_map_values h.clusters.named).sublist (List.filter_sublist.map _)

end Memory
end Fleet.Store

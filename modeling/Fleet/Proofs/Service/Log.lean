import Fleet.Proofs.Service.Errand

/-! # Logs

Parties take turns on a store that they share.  The `Log` says what happened, last things first:
what a party did and what it was answered, and what others did to the store, each with the store
before and after.

What parties were answered is `Remembered`: its revisions still tell it, whatever happened to the
store since.  So a party that obtained an object and writes it while its revision is the stored one
finds the object as it obtained it (`Remembered.tenant_stored`, `Remembered.cluster_stored`), and the
next entry is within what the party relies on (`Remembered.relies`).  What an entry may do to stored
objects is said once (`Remembered.objectSteps`), for the properties that all entries preserve.

A log is `Recorded` if each entry happened to the store that the one before it left, and if every
party did only what the contract of its errand allows. -/

namespace Fleet.Service

open Resource Store

/-! ### Entries -/

/-- What happens to a store. -/
inductive Deed (ι : Type) where
  /-- A party does something and is answered. -/
  | act (party : ι) (action : Action) (answer : action.Answer)
  /-- Another writer gives a cluster a new revision. -/
  | touch (name : String)
  /-- The next writes of observed states are to conflict. -/
  | conflicts (n : Nat)

/-- What happened to a store, with the store before and after. -/
structure Entry (ι : Type) where
  deed : Deed ι
  before : Memory
  after : Memory

/-- Entries, last ones first. -/
abbrev Log (ι : Type) := List (Entry ι)

variable {ι : Type}

/-- The entry is a call and what the store answered. -/
def Entry.Calls (entry : Entry ι) (i : ι) (c : Call) (x : c.Answer) : Prop :=
  ∃ client, entry.deed = .act i (.call client c) x

/-- The entry says what happens to a store. -/
def Entry.Happens (entry : Entry ι) : Prop :=
  match entry.deed with
  | .act _ (.call _ c) x => entry.before.answer c = (x, entry.after)
  | .act _ _ _ => entry.after = entry.before
  | .touch name => entry.after = entry.before.touchCluster name
  | .conflicts n => entry.after = { entry.before with conflicts := n }

/-- What a party did and was answered. -/
def history [DecidableEq ι] (i : ι) (log : Log ι) : History :=
  log.filterMap (fun entry =>
    match entry.deed with
    | .act j action x => if j = i then some ⟨action, x⟩ else none
    | _ => none)

/-- The entries of a log lead from one store to another, and parties do what their errands allow. -/
inductive Recorded [DecidableEq ι] (errand : ι → Errand) (start : Memory) :
    Log ι → Memory → Prop where
  | nil : Recorded errand start [] start
  | cons {log : Log ι} {entry : Entry ι} : Recorded errand start log entry.before →
    entry.Happens →
    (∀ i action x, entry.deed = .act i action x → (errand i).allows (history i log) action) →
    Recorded errand start (entry :: log) entry.after

theorem Entry.Calls.answer {entry : Entry ι} {i : ι} {c : Call} {x : c.Answer}
    (hc : entry.Calls i c x) (h : entry.Happens) :
    entry.before.answer c = (x, entry.after) := by
  obtain ⟨client, hdeed⟩ := hc
  unfold Entry.Happens at h
  rw [hdeed] at h
  exact h

theorem Entry.Happens.steps {entry : Entry ι} (h : entry.Happens) (hs : entry.before.IsSound) :
    Memory.Steps entry.before entry.after := by
  obtain ⟨deed, before, after⟩ := entry
  cases deed with
  | act i action x =>
      cases action with
      | call client c =>
          have hanswer : before.answer c = (x, after) := h
          have := Memory.steps_answer hs c
          rw [hanswer] at this
          exact this
      | _ => exact (show after = before from h) ▸ Memory.Steps.refl before
  | touch name => exact (show after = _ from h) ▸ Memory.steps_touchCluster hs name
  | conflicts n => exact (show after = _ from h) ▸ Memory.steps_conflicts before n

/-- Everything in an answer is as it was obtained: in the store its revision still tells it. -/
structure Snapshots (m : Memory) (a : Action) (x : a.Answer) : Prop where
  tenants : ∀ t ∈ a.tenants x, Snapshot Tenant.metadata m.tenants m.revision t
  clusters : ∀ c ∈ a.clusters x, Snapshot Cluster.metadata m.clusters m.revision c

theorem Snapshots.steps {m m' : Memory} {a : Action} {x : a.Answer} (h : Snapshots m a x)
    (hs : Memory.Steps m m') : Snapshots m' a x :=
  ⟨fun t ht => (h.tenants t ht).alters hs.tenants, fun c hc => (h.clusters c hc).alters hs.clusters⟩

/-- An answer gives what is stored at that time. -/
theorem Entry.Happens.snapshots {entry : Entry ι} {i : ι} {a : Action} {x : a.Answer}
    (h : entry.Happens) (hs : entry.before.IsSound) (hdeed : entry.deed = .act i a x) :
    Snapshots entry.after a x := by
  have hafter := hs.steps (h.steps hs)
  cases a with
  | call client c =>
      have hanswer : entry.before.answer c = (x, entry.after) :=
        Entry.Calls.answer ⟨client, hdeed⟩ h
      constructor
      · intro t ht
        have hget := Memory.get?_of_mem_tenants hs c (t := t) (by rw [hanswer]; exact ht)
        rw [hanswer] at hget
        exact hafter.tenants.snapshot hget
      · intro b hb
        have hget := Memory.get?_of_mem_clusters hs c (c := b) (by rw [hanswer]; exact hb)
        rw [hanswer] at hget
        exact hafter.clusters.snapshot hget
  | _ => exact ⟨fun t ht => absurd ht List.not_mem_nil, fun c hc => absurd hc List.not_mem_nil⟩

/-! ### Histories of a log -/

section History

variable [DecidableEq ι] {i : ι} {log : Log ι} {entry : Entry ι}

theorem history_cons_self {action : Action} {x : action.Answer}
    (h : entry.deed = .act i action x) :
    history i (entry :: log) = ⟨action, x⟩ :: history i log := by
  unfold history
  rw [List.filterMap_cons, h]
  simp

theorem history_cons_other (h : ∀ action x, entry.deed ≠ .act i action x) :
    history i (entry :: log) = history i log := by
  unfold history
  rw [List.filterMap_cons]
  cases hdeed : entry.deed with
  | act j action x =>
      have hne : j ≠ i := by
        intro heq
        exact h action x (heq ▸ hdeed)
      simp [hne]
  | touch name => rfl
  | conflicts n => rfl

/-- What a party did is in the log. -/
theorem exists_entry_of_mem_history {action : Action} {x : action.Answer}
    (h : ⟨action, x⟩ ∈ history i log) : ∃ entry ∈ log, entry.deed = .act i action x := by
  obtain ⟨entry, hentry, heq⟩ := List.mem_filterMap.1 h
  refine ⟨entry, hentry, ?_⟩
  split at heq
  · next j action' x' hdeed =>
      split at heq
      · next hji =>
          subst hji
          cases heq
          exact hdeed
      · cases heq
  · cases heq

end History

/-! ### What parties remember -/

/-- The store is sound, and whatever happened to it since, what a party was answered is told by its
revision. -/
structure Remembered [DecidableEq ι] (log : Log ι) (m : Memory) : Prop where
  isSound : m.IsSound
  snapshots : ∀ i, ∀ e ∈ history i log, Snapshots m e.1 e.2

namespace Remembered

variable [DecidableEq ι] {m m' : Memory} {log : Log ι} {entry : Entry ι}

theorem nil (hs : m.IsSound) : Remembered ([] : Log ι) m := ⟨hs, fun _ _ he => by cases he⟩

theorem steps (h : Remembered log m) (hs : Memory.Steps m m') : Remembered log m' :=
  ⟨h.isSound.steps hs, fun i e he => (h.snapshots i e he).steps hs⟩

theorem cons (h : Remembered log entry.before) (hhappens : entry.Happens) :
    Remembered (entry :: log) entry.after := by
  have hsteps := hhappens.steps h.isSound
  refine ⟨h.isSound.steps hsteps, fun i e he => ?_⟩
  by_cases hact : ∃ action x, entry.deed = .act i action x
  · obtain ⟨action, x, hdeed⟩ := hact
    rw [history_cons_self hdeed] at he
    rcases List.mem_cons.1 he with rfl | he
    · exact hhappens.snapshots h.isSound hdeed
    · exact (h.snapshots i e he).steps hsteps
  · rw [history_cons_other (fun action x hdeed => hact ⟨action, x, hdeed⟩)] at he
    exact (h.snapshots i e he).steps hsteps

/-- A tenant that a party obtained last, and that a write carrying its revision may replace, is the
one stored. -/
theorem tenant_stored (h : Remembered log m) {i : ι} {found stored t : Tenant}
    (hlast : lastTenant t.name (history i log) = some found)
    (hrevision : t.metadata.revision = found.metadata.revision)
    (hget : m.tenants.get? t.name = some stored)
    (hcurrent : Memory.isCurrent stored.metadata t.metadata = true) : stored = found := by
  obtain ⟨hname, e, he, hmem⟩ := exists_of_lastTenant hlast
  have hname : found.metadata.nameAny = t.name := hname
  exact ((h.snapshots i _ he).tenants found hmem).eq_stored (hname ▸ hget) hrevision hcurrent

/-- A cluster that a party obtained last, and that a write carrying its revision may replace, is the
one stored. -/
theorem cluster_stored (h : Remembered log m) {i : ι} {found stored c : Cluster}
    (hlast : lastCluster c.name (history i log) = some found)
    (hrevision : c.metadata.revision = found.metadata.revision)
    (hget : m.clusters.get? c.name = some stored)
    (hcurrent : Memory.isCurrent stored.metadata c.metadata = true) : stored = found := by
  obtain ⟨hname, e, he, hmem⟩ := exists_of_lastCluster hlast
  have hname : found.metadata.nameAny = c.name := hname
  exact ((h.snapshots i _ he).clusters found hmem).eq_stored (hname ▸ hget) hrevision hcurrent

/-! #### Writes -/

theorem updateTenant_eq (h : Remembered log m) {e : Errand} {i : ι} {client : Client} {t : Tenant}
    (hallows : e.allows (history i log) (.call client (.updateTenant t))) :
    (∃ found, lastTenant t.name (history i log) = some found ∧ e.ChangesTenant found t ∧
        m.tenants.get? t.name = some found ∧
        m.answer (.updateTenant t) = Memory.written (m.writeTenant t)) ∨
      ∃ error, m.answer (.updateTenant t) = (.error error, m) := by
  obtain ⟨found, hlast, hchanges⟩ := hallows
  rcases Memory.answer_updateTenant m t with ⟨stored, hget, hcurrent, hm⟩ | herror
  · have : stored = found := h.tenant_stored hlast hchanges.revision hget hcurrent
    exact Or.inl ⟨found, hlast, hchanges, this ▸ hget, hm⟩
  · exact Or.inr herror

theorem updateCluster_eq (h : Remembered log m) {e : Errand} {i : ι} {client : Client} {c : Cluster}
    (hallows : e.allows (history i log) (.call client (.updateCluster c))) :
    (∃ found, lastCluster c.name (history i log) = some found ∧ e.Rewrites found c ∧
        m.clusters.get? c.name = some found ∧
        m.answer (.updateCluster c) =
          Memory.written (m.writeCluster { c with status := found.status })) ∨
      ∃ error, m.answer (.updateCluster c) = (.error error, m) := by
  obtain ⟨found, hlast, hrewrites⟩ := hallows
  rcases Memory.answer_updateCluster m c with ⟨stored, hget, hcurrent, hm⟩ | herror
  · have : stored = found := h.cluster_stored hlast hrewrites.revision hget hcurrent
    subst this
    exact Or.inl ⟨stored, hlast, hrewrites, hget, hm⟩
  · exact Or.inr herror

theorem updateClusterStatus_eq (h : Remembered log m) {e : Errand} {i : ι} {client : Client}
    {c : Cluster}
    (hallows : e.allows (history i log) (.call client (.updateClusterStatus c))) :
    (∃ found, lastCluster c.name (history i log) = some found ∧ e.Observes found c ∧
        m.clusters.get? c.name = some found ∧
        m.answer (.updateClusterStatus c) =
          Memory.written (m.writeObserved c.name found c.status)) ∨
      ∃ error n,
        m.answer (.updateClusterStatus c) = (.error error, { m with conflicts := n }) := by
  obtain ⟨found, hlast, hobserves, -⟩ := hallows
  rcases Memory.answer_updateClusterStatus m c with ⟨stored, hget, hcurrent, hm⟩ | herror
  · have : stored = found := h.cluster_stored hlast hobserves.revision hget hcurrent
    subst this
    exact Or.inl ⟨stored, hlast, hobserves, hget, hm⟩
  · exact Or.inr herror

/-- The store answers as parties rely on. -/
theorem relies (h : Remembered log m) {e : Errand} {i : ι} {client : Client}
    {c : Call} (hallows : e.allows (history i log) (.call client c)) :
    Errand.relies (history i log) (.call client c) (m.answer c).1 := by
  cases c with
  | getTenant name =>
      rcases Memory.answer_getTenant m name with ⟨t, hget, hm⟩ | ⟨e, hm⟩
      · rw [hm]; exact h.isSound.tenants.named name t hget
      · rw [hm]; trivial
  | listClusters tenant => exact Memory.nodup_clustersOf h.isSound tenant
  | getCluster name =>
      rcases Memory.answer_getCluster m name with ⟨c, hget, hm⟩ | ⟨e, hm⟩
      · rw [hm]; exact h.isSound.clusters.named name c hget
      · rw [hm]; trivial
  | createCluster c =>
      rcases Memory.answer_createCluster m c with ⟨-, hm⟩ | ⟨e, hm⟩
      · rw [hm]; exact ⟨rfl, rfl⟩
      · rw [hm]; trivial
  | updateCluster c =>
      rcases h.updateCluster_eq hallows with ⟨found, hlast, -, -, hm⟩ | ⟨e, hm⟩
      · rw [hm]
        refine ⟨rfl, ?_⟩
        intro found' hlast'
        rw [hlast] at hlast'
        cases hlast'
        rfl
      · rw [hm]; trivial
  | _ => trivial

end Remembered

/-! ### Recorded logs -/

namespace Recorded

variable [DecidableEq ι] {errand : ι → Errand} {start m : Memory} {log : Log ι}

theorem remembered (h : Recorded errand start log m) (hs : start.IsSound) : Remembered log m := by
  induction h with
  | nil => exact .nil hs
  | cons _ hhappens _ ih => exact ih.cons hhappens

theorem isSound (h : Recorded errand start log m) (hs : start.IsSound) : m.IsSound :=
  (h.remembered hs).isSound

/-- The part of a log that was there when an entry was made. -/
theorem earlier {later earlier : Log ι} {entry : Entry ι}
    (h : Recorded errand start log m) (hlog : log = later ++ entry :: earlier) :
    Recorded errand start earlier entry.before ∧ entry.Happens ∧
      ∀ i action x, entry.deed = .act i action x →
        (errand i).allows (history i earlier) action := by
  induction h generalizing later with
  | nil => cases later <;> cases hlog
  | cons hrest hhappens hallows ih =>
      cases later with
      | nil =>
          cases hlog
          exact ⟨hrest, hhappens, hallows⟩
      | cons _ later =>
          injection hlog with _ hlog
          exact ih hlog

/-- The store is determined by the log. -/
theorem unique {m' : Memory} (h : Recorded errand start log m) (h' : Recorded errand start log m') :
    m = m' := by
  cases h with
  | nil => cases h' with | nil => rfl
  | cons _ _ _ => cases h' with | cons _ _ _ => rfl

end Recorded

/-! ### What may become of stored objects -/

/-- What errands may do to the tenants of a store. -/
inductive TenantStep (errand : ι → Errand) (m m' : Memory) : Prop where
  | same : m'.tenants = m.tenants → TenantStep errand m m'
  | created {i : ι} {t : Tenant} : (errand i).NewTenant t →
    m'.tenants = m.tenants.insert t.name { t with metadata := m.stamp t.metadata } →
    TenantStep errand m m'
  | changed {i : ι} {found t : Tenant} : (errand i).ChangesTenant found t →
    m.tenants.get? t.name = some found →
    m'.tenants = m.tenants.insert t.name { t with metadata := m.stamp t.metadata } →
    TenantStep errand m m'
  | deleted {name : String} : m'.tenants = m.tenants.erase name → TenantStep errand m m'

/-- What errands may do to the clusters of a store, and others who give new revisions. -/
inductive ClusterStep (errand : ι → Errand) (m m' : Memory) : Prop where
  | same : m'.clusters = m.clusters → ClusterStep errand m m'
  | created {i : ι} {c : Cluster} : (errand i).NewCluster c → m.clusters.get? c.name = none →
    m'.clusters = m.clusters.insert c.name
      { c with status := none, metadata := m.stamp c.metadata } →
    ClusterStep errand m m'
  | rewritten {i : ι} {found c : Cluster} : (errand i).Rewrites found c →
    m.clusters.get? c.name = some found →
    m'.clusters = m.clusters.insert c.name
      { c with status := found.status, metadata := m.stamp c.metadata } →
    ClusterStep errand m m'
  | observed {i : ι} {found c : Cluster} : (errand i).Observes found c →
    ((errand i).context?.isSome → found.status = none) → m.clusters.get? c.name = some found →
    m'.clusters = m.clusters.insert c.name (m.observed found c.status) →
    ClusterStep errand m m'
  | deleted {i : ι} {name : String} : errand i = .deleteCluster name →
    m'.clusters = m.clusters.erase name → ClusterStep errand m m'
  | touched {name : String} {found : Cluster} : m.clusters.get? name = some found →
    m'.clusters = m.clusters.insert name
      { found with metadata.revision := some (toString (m.revision + 1)) } →
    ClusterStep errand m m'

section Calls

variable {errand : ι → Errand} {m : Memory} {log : Log ι}

theorem clusterStep_touch (m : Memory) (name : String) :
    ClusterStep errand m (m.touchCluster name) := by
  unfold Memory.touchCluster
  cases hget : m.clusters.get? name with
  | none => exact .same rfl
  | some found => exact .touched hget rfl

variable [DecidableEq ι]

namespace Remembered

/-- What a call does that a contract allows. -/
theorem objectSteps_call (h : Remembered log m) {i : ι} {client : Client} {c : Call}
    (hallows : (errand i).allows (history i log) (.call client c)) :
    TenantStep errand m (m.answer c).2 ∧ ClusterStep errand m (m.answer c).2 := by
  cases c with
  | createTenant t =>
      rcases Memory.answer_createTenant m t with ⟨-, hm⟩ | ⟨e, hm⟩ <;> rw [hm]
      · exact ⟨.created (i := i) hallows rfl, .same rfl⟩
      · exact ⟨.same rfl, .same rfl⟩
  | updateTenant t =>
      rcases h.updateTenant_eq hallows with ⟨found, -, hchanges, hget, hm⟩ | ⟨e, hm⟩ <;> rw [hm]
      · exact ⟨.changed hchanges hget rfl, .same rfl⟩
      · exact ⟨.same rfl, .same rfl⟩
  | deleteTenant name => exact ⟨.deleted rfl, .same rfl⟩
  | createCluster c =>
      rcases Memory.answer_createCluster m c with ⟨hfree, hm⟩ | ⟨e, hm⟩ <;> rw [hm]
      · exact ⟨.same rfl, .created (i := i) hallows hfree rfl⟩
      · exact ⟨.same rfl, .same rfl⟩
  | updateCluster c =>
      rcases h.updateCluster_eq hallows with ⟨found, -, hrewrites, hget, hm⟩ | ⟨e, hm⟩ <;>
        rw [hm]
      · exact ⟨.same rfl, .rewritten hrewrites hget rfl⟩
      · exact ⟨.same rfl, .same rfl⟩
  | updateClusterStatus c =>
      rcases h.updateClusterStatus_eq hallows with
        ⟨found, hlast, hobserves, hget, hm⟩ | ⟨e, n, hm⟩ <;> rw [hm]
      · obtain ⟨found', hlast', -, hfresh⟩ := hallows
        rw [hlast] at hlast'
        cases hlast'
        exact ⟨.same rfl, .observed hobserves hfresh hget rfl⟩
      · exact ⟨.same rfl, .same rfl⟩
  | deleteCluster name => exact ⟨.same rfl, .deleted (i := i) hallows rfl⟩
  | listTenants | getTenant | listClusters | getCluster | listSecrets =>
      exact ⟨.same rfl, .same rfl⟩

/-- What happens to stored objects is what errands may do, or a touch. -/
theorem objectSteps {entry : Entry ι} (h : Remembered log entry.before)
    (hhappens : entry.Happens)
    (hallows : ∀ i action x, entry.deed = .act i action x →
      (errand i).allows (history i log) action) :
    TenantStep errand entry.before entry.after ∧ ClusterStep errand entry.before entry.after := by
  obtain ⟨deed, before, after⟩ := entry
  cases deed with
  | act i action x =>
      cases action with
      | call client c =>
          have hanswer : before.answer c = (x, after) := hhappens
          have hsteps := h.objectSteps_call (hallows i _ x rfl)
          rw [hanswer] at hsteps
          exact hsteps
      | _ => exact (show after = before from hhappens) ▸ ⟨.same rfl, .same rfl⟩
  | touch name => exact (show after = _ from hhappens) ▸ ⟨.same rfl, clusterStep_touch before name⟩
  | conflicts n => exact (show after = _ from hhappens) ▸ ⟨.same rfl, .same rfl⟩

end Remembered

end Calls
end Fleet.Service

import Fleet.Proofs.Service.Workshop

/-! # No update is lost

Requests are interleaved in any order on a store in memory.  Whenever a write of a tenant or a
cluster succeeds, what it replaces is what its request obtained last, so the result is the request's
own change of the object stored (`Entry.IsOwnChange`).  Revisions are given out once
(`Log.revisions`), and a name is created once until it is deleted.

Main statement: `no_lost_update`. -/

namespace Fleet

open Resource Store Service

variable {ι : Type}

namespace Service

/-! ### Statements -/

/-- A successful write replaces what its party obtained last by the party's own change of it.  A
write of a cluster leaves alone what is observed of it, and a write of what is observed leaves
everything else alone. -/
def Entry.IsOwnChange (entry : Entry ι) (e : Errand) (h : History) : Prop :=
  match entry.deed with
  | .act _ (.call _ (.updateTenant t)) (.ok written) => ∃ found,
      lastTenant t.name h = some found ∧ entry.before.tenants.get? t.name = some found ∧
      e.ChangesTenant found t ∧
      written = { t with metadata := entry.before.stamp t.metadata } ∧
      entry.after = { entry.before with
        tenants := entry.before.tenants.insert t.name written
        revision := entry.before.revision + 1 }
  | .act _ (.call _ (.updateCluster c)) (.ok written) => ∃ found,
      lastCluster c.name h = some found ∧ entry.before.clusters.get? c.name = some found ∧
      e.Rewrites found c ∧
      written = { c with
        metadata := entry.before.stamp c.metadata
        status := found.status } ∧
      entry.after = { entry.before with
        clusters := entry.before.clusters.insert c.name written
        revision := entry.before.revision + 1 }
  | .act _ (.call _ (.updateClusterStatus c)) (.ok written) => ∃ found,
      lastCluster c.name h = some found ∧ entry.before.clusters.get? c.name = some found ∧
      e.Observes found c ∧
      written = { found with
        metadata.revision := some (toString (entry.before.revision + 1))
        status := c.status } ∧
      entry.after = { entry.before with
        clusters := entry.before.clusters.insert c.name written
        revision := entry.before.revision + 1 }
  | _ => True

/-- The revision of the object that a write gives. -/
def Call.revision? : (c : Call) → c.Answer → Option String
  | .createTenant _, .ok t => Metadata.revision t.metadata
  | .updateTenant _, .ok t => Metadata.revision t.metadata
  | .createCluster _, .ok c => Metadata.revision c.metadata
  | .updateCluster _, .ok c => Metadata.revision c.metadata
  | .updateClusterStatus _, .ok c => Metadata.revision c.metadata
  | _, _ => none

/-- The revision that an entry gives to an object. -/
def Entry.revision? (entry : Entry ι) : Option String :=
  match entry.deed with
  | .act _ (.call _ c) x => Call.revision? c x
  | .touch name => (entry.after.clusters.get? name).bind (·.metadata.revision)
  | _ => none

/-- The revisions that the entries of a log give out. -/
def Log.revisions (log : Log ι) : List String := log.filterMap Entry.revision?

/-! ### Writes -/

section Writes

variable [DecidableEq ι] {errand : ι → Errand} {start : Memory} {log : Log ι} {entry : Entry ι}

theorem Recorded.isOwnChange (h : Recorded errand start log entry.before) (hs : start.IsSound)
    (hhappens : entry.Happens) {i : ι} {action : Action} {x : action.Answer}
    (hdeed : entry.deed = .act i action x)
    (hallows : (errand i).allows (history i log) action) :
    entry.IsOwnChange (errand i) (history i log) := by
  have hmemory := h.remembered hs
  unfold Entry.IsOwnChange
  rw [hdeed]
  cases action with
  | call client c =>
      have hanswer : entry.before.answer c = (x, entry.after) :=
        Entry.Calls.answer ⟨client, hdeed⟩ hhappens
      cases c with
      | updateTenant t =>
          rcases hmemory.updateTenant_eq hallows with ⟨found, hlast, hchanges, hget, hm⟩ | ⟨e, hm⟩
          · obtain ⟨rfl, hafter⟩ := Prod.mk.inj (hm.symm.trans hanswer)
            exact ⟨found, hlast, hget, hchanges, rfl, hafter.symm⟩
          · obtain ⟨rfl, -⟩ := Prod.mk.inj (hm.symm.trans hanswer)
            trivial
      | updateCluster c =>
          rcases hmemory.updateCluster_eq hallows with ⟨found, hlast, hrewrites, hget, hm⟩ | ⟨e, hm⟩
          · obtain ⟨rfl, hafter⟩ := Prod.mk.inj (hm.symm.trans hanswer)
            exact ⟨found, hlast, hget, hrewrites, rfl, hafter.symm⟩
          · obtain ⟨rfl, -⟩ := Prod.mk.inj (hm.symm.trans hanswer)
            trivial
      | updateClusterStatus c =>
          rcases hmemory.updateClusterStatus_eq hallows with
            ⟨found, hlast, hobserves, hget, hm⟩ | ⟨e, n, hm⟩
          · obtain ⟨rfl, hafter⟩ := Prod.mk.inj (hm.symm.trans hanswer)
            exact ⟨found, hlast, hget, hobserves, rfl, hafter.symm⟩
          · obtain ⟨rfl, -⟩ := Prod.mk.inj (hm.symm.trans hanswer)
            trivial
      | _ => trivial
  | _ => trivial

end Writes

/-! ### Revisions -/

theorem Call.revision?_answer {m : Memory} {c : Call} {r : String}
    (h : Call.revision? c (m.answer c).1 = some r) :
    r = toString (m.revision + 1) ∧ (m.answer c).2.revision = m.revision + 1 := by
  cases c with
  | createTenant t =>
      rcases Memory.answer_createTenant m t with ⟨-, hm⟩ | ⟨e, hm⟩
      · rw [hm] at h ⊢
        exact ⟨(Option.some.inj h).symm, rfl⟩
      · rw [hm] at h; cases h
  | updateTenant t =>
      rcases Memory.answer_updateTenant m t with ⟨-, -, -, hm⟩ | ⟨e, hm⟩
      · rw [hm] at h ⊢
        exact ⟨(Option.some.inj h).symm, rfl⟩
      · rw [hm] at h; cases h
  | createCluster c =>
      rcases Memory.answer_createCluster m c with ⟨-, hm⟩ | ⟨e, hm⟩
      · rw [hm] at h ⊢
        exact ⟨(Option.some.inj h).symm, rfl⟩
      · rw [hm] at h; cases h
  | updateCluster c =>
      rcases Memory.answer_updateCluster m c with ⟨stored, -, -, hm⟩ | ⟨e, hm⟩
      · rw [hm] at h ⊢
        exact ⟨(Option.some.inj h).symm, rfl⟩
      · rw [hm] at h; cases h
  | updateClusterStatus c =>
      rcases Memory.answer_updateClusterStatus m c with ⟨stored, -, -, hm⟩ | ⟨e, n, hm⟩
      · rw [hm] at h ⊢
        exact ⟨(Option.some.inj h).symm, rfl⟩
      · rw [hm] at h; cases h
  | listTenants | getTenant | deleteTenant | listClusters | getCluster | deleteCluster
  | listSecrets => cases h

/-- A revision that an entry gives out is the next one. -/
theorem Entry.Happens.revision? {entry : Entry ι} (h : entry.Happens) {r : String}
    (hr : entry.revision? = some r) : r = toString (entry.before.revision + 1) ∧
      entry.after.revision = entry.before.revision + 1 := by
  obtain ⟨deed, before, after⟩ := entry
  cases deed with
  | act i action x =>
      cases action with
      | call client c =>
          have hanswer : before.answer c = (x, after) := h
          have hnext := Call.revision?_answer (m := before) (c := c) (r := r)
            (by rw [hanswer]; exact hr)
          rw [hanswer] at hnext
          exact hnext
      | _ => cases hr
  | touch name =>
      have hafter : after = before.touchCluster name := h
      subst hafter
      refine ⟨?_, rfl⟩
      have hr : ((before.touchCluster name).clusters.get? name).bind (·.metadata.revision) =
        some r := hr
      unfold Memory.touchCluster at hr
      dsimp only at hr
      cases hget : before.clusters.get? name with
      | none =>
          rw [hget] at hr
          dsimp only at hr
          rw [hget] at hr
          cases hr
      | some c =>
          rw [hget] at hr
          dsimp only at hr
          rw [Dict.get?_insert, if_pos rfl] at hr
          exact (Option.some.inj hr).symm
  | conflicts n => cases hr

section Revisions

variable [DecidableEq ι] {errand : ι → Errand} {start m : Memory} {log : Log ι}

/-- Revisions given out lie between those of the store at the start and at the end. -/
theorem Recorded.exists_of_mem_revisions (h : Recorded errand start log m) (hs : start.IsSound) :
    start.revision ≤ m.revision ∧
      ∀ r ∈ log.revisions, ∃ i, start.revision < i ∧ i ≤ m.revision ∧ r = toString i := by
  induction h with
  | nil => exact ⟨Nat.le_refl _, fun r hr => by cases hr⟩
  | @cons log entry hrest hhappens _ ih =>
      obtain ⟨hle, hall⟩ := ih
      have hstep := (hhappens.steps (hrest.isSound hs)).tenants.le
      refine ⟨Nat.le_trans hle hstep, ?_⟩
      intro r hr
      unfold Log.revisions at hr
      rw [List.filterMap_cons] at hr
      cases hnew : entry.revision? with
      | none =>
          rw [hnew] at hr
          obtain ⟨i, hlt, hi, hri⟩ := hall r hr
          exact ⟨i, hlt, Nat.le_trans hi hstep, hri⟩
      | some r' =>
          rw [hnew] at hr
          obtain ⟨hr', hafter⟩ := hhappens.revision? hnew
          rcases List.mem_cons.1 hr with rfl | hr
          · exact ⟨entry.before.revision + 1, by omega, by omega, hr'⟩
          · obtain ⟨i, hlt, hi, hri⟩ := hall r hr
            exact ⟨i, hlt, Nat.le_trans hi hstep, hri⟩

theorem Recorded.nodup_revisions (h : Recorded errand start log m) (hs : start.IsSound) :
    log.revisions.Nodup := by
  induction h with
  | nil => exact List.nodup_nil
  | @cons log entry hrest hhappens _ ih =>
      unfold Log.revisions
      rw [List.filterMap_cons]
      cases hnew : entry.revision? with
      | none => exact ih
      | some r =>
          obtain ⟨hr, -⟩ := hhappens.revision? hnew
          refine List.nodup_cons.2 ⟨fun hmem => ?_, ih⟩
          obtain ⟨i, -, hi, hri⟩ := (hrest.exists_of_mem_revisions hs).2 r hmem
          have : i = entry.before.revision + 1 := toString_injective (hri.symm.trans hr)
          omega

end Revisions

/-! ### Names -/

theorem isSome_get?_insert {α : Type} {d : Dict α} {name : String} (key : String) (a : α)
    (h : (d.get? name).isSome) : ((d.insert key a).get? name).isSome := by
  rw [Dict.get?_insert]
  split
  · rfl
  · exact h

/-- A name stays in a dictionary that is changed in one place, unless it is the one removed. -/
theorem isSome_get?_of_changed {α : Type} {d d' : Dict α} {name : String} {removed : String → Prop}
    (h : d' = d ∨ (∃ key a, d' = d.insert key a) ∨ ∃ key, removed key ∧ d' = d.erase key)
    (hin : (d.get? name).isSome) (hkept : ¬ removed name) : (d'.get? name).isSome := by
  obtain rfl | ⟨key, a, rfl⟩ | ⟨key, hremoved, rfl⟩ := h
  · exact hin
  · exact isSome_get?_insert key a hin
  · rw [Dict.get?_erase]
    split
    · next hkey => exact absurd (hkey ▸ hremoved) hkept
    · exact hin

/-- A tenant stays until it is deleted. -/
theorem Entry.Happens.tenant_stays {entry : Entry ι} (h : entry.Happens) {name : String}
    (hin : (entry.before.tenants.get? name).isSome)
    (hkept : ∀ i, ¬ entry.Calls i (.deleteTenant name) (.ok ())) :
    (entry.after.tenants.get? name).isSome := by
  obtain ⟨deed, before, after⟩ := entry
  cases deed with
  | act i action x =>
      cases action with
      | call client c =>
          have hanswer : before.answer c = (x, after) := h
          have hafter : after = (before.answer c).2 := by rw [hanswer]
          rw [hafter]
          apply isSome_get?_of_changed (Memory.tenants_answer before c) hin
          rintro rfl
          have hx : x = .ok () :=
            (congrArg Prod.fst hanswer).symm.trans (Memory.answer_deleteTenant hin)
          subst hx
          exact hkept i ⟨client, rfl⟩
      | _ => exact (show after = before from h) ▸ hin
  | touch key => exact (show after = _ from h) ▸ hin
  | conflicts n => exact (show after = _ from h) ▸ hin

/-- A cluster stays until it is deleted. -/
theorem Entry.Happens.cluster_stays {entry : Entry ι} (h : entry.Happens) {name : String}
    (hin : (entry.before.clusters.get? name).isSome)
    (hkept : ∀ i, ¬ entry.Calls i (.deleteCluster name) (.ok ())) :
    (entry.after.clusters.get? name).isSome := by
  obtain ⟨deed, before, after⟩ := entry
  cases deed with
  | act i action x =>
      cases action with
      | call client c =>
          have hanswer : before.answer c = (x, after) := h
          have hafter : after = (before.answer c).2 := by rw [hanswer]
          rw [hafter]
          apply isSome_get?_of_changed (Memory.clusters_answer before c) hin
          rintro rfl
          have hx : x = .ok () :=
            (congrArg Prod.fst hanswer).symm.trans (Memory.answer_deleteCluster hin)
          subst hx
          exact hkept i ⟨client, rfl⟩
      | _ => exact (show after = before from h) ▸ hin
  | touch key =>
      have hafter : after = before.touchCluster key := h
      rw [hafter]
      unfold Memory.touchCluster
      dsimp only
      cases before.clusters.get? key with
      | none => exact hin
      | some c' => exact isSome_get?_insert key _ hin
  | conflicts n => exact (show after = _ from h) ▸ hin

/-- A tenant is created only where there is none, and then there is one. -/
theorem Entry.Happens.createTenant {entry : Entry ι} (h : entry.Happens) {i : ι} {t x : Tenant}
    (hcalls : entry.Calls i (.createTenant t) (.ok x)) :
    entry.before.tenants.get? t.name = none ∧ (entry.after.tenants.get? t.name).isSome := by
  have hanswer := hcalls.answer h
  rcases Memory.answer_createTenant entry.before t with ⟨hget, hm⟩ | ⟨e, hm⟩
  · obtain ⟨-, hafter⟩ := Prod.mk.inj (hm.symm.trans hanswer)
    refine ⟨hget, ?_⟩
    rw [← hafter]
    exact Option.isSome_iff_exists.2 ⟨_, (Dict.get?_insert _ _ _ _).trans (if_pos rfl)⟩
  · cases (Prod.mk.inj (hm.symm.trans hanswer)).1

/-- A cluster is created only where there is none, and then there is one. -/
theorem Entry.Happens.createCluster {entry : Entry ι} (h : entry.Happens) {i : ι} {c x : Cluster}
    (hcalls : entry.Calls i (.createCluster c) (.ok x)) :
    entry.before.clusters.get? c.name = none ∧ (entry.after.clusters.get? c.name).isSome := by
  have hanswer := hcalls.answer h
  rcases Memory.answer_createCluster entry.before c with ⟨hget, hm⟩ | ⟨e, hm⟩
  · obtain ⟨-, hafter⟩ := Prod.mk.inj (hm.symm.trans hanswer)
    refine ⟨hget, ?_⟩
    rw [← hafter]
    exact Option.isSome_iff_exists.2 ⟨_, (Dict.get?_insert _ _ _ _).trans (if_pos rfl)⟩
  · cases (Prod.mk.inj (hm.symm.trans hanswer)).1

section Names

variable [DecidableEq ι] {errand : ι → Errand} {start m : Memory}

/-- What each later entry keeps is so in the end. -/
theorem Recorded.kept {between earlier : Log ι} {entry : Entry ι} {P : Memory → Prop}
    (h : Recorded errand start (between ++ entry :: earlier) m) (hin : P entry.after)
    (hkeep : ∀ e ∈ between, e.Happens → P e.before → P e.after) : P m := by
  induction between generalizing m with
  | nil => cases h with | cons _ _ _ => exact hin
  | cons e between ih =>
      cases h with
      | cons hrest hhappens _ =>
          have hbefore := ih hrest (fun e he => hkeep e (List.mem_cons_of_mem _ he))
          exact hkeep e List.mem_cons_self hhappens hbefore

theorem Recorded.tenant_stays {between earlier : Log ι} {entry : Entry ι} {name : String}
    (h : Recorded errand start (between ++ entry :: earlier) m)
    (hin : (entry.after.tenants.get? name).isSome)
    (hkept : ∀ e ∈ between, ∀ i, ¬ e.Calls i (.deleteTenant name) (.ok ())) :
    (m.tenants.get? name).isSome :=
  h.kept (P := fun m => (m.tenants.get? name).isSome) hin
    (fun e he hhappens hbefore => hhappens.tenant_stays hbefore (hkept e he))

theorem Recorded.cluster_stays {between earlier : Log ι} {entry : Entry ι} {name : String}
    (h : Recorded errand start (between ++ entry :: earlier) m)
    (hin : (entry.after.clusters.get? name).isSome)
    (hkept : ∀ e ∈ between, ∀ i, ¬ e.Calls i (.deleteCluster name) (.ok ())) :
    (m.clusters.get? name).isSome :=
  h.kept (P := fun m => (m.clusters.get? name).isSome) hin
    (fun e he hhappens hbefore => hhappens.cluster_stays hbefore (hkept e he))

end Names

/-! ### Result -/

variable [DecidableEq ι]

/-- What a log says if no update was lost. -/
structure Log.NoLostUpdate (errand : ι → Errand) (start : Memory) (log : Log ι) : Prop where
  /-- Every successful write is its party's own change of what was stored. -/
  ownChange : ∀ later entry earlier i action x, log = later ++ entry :: earlier →
    entry.deed = .act i action x → entry.IsOwnChange (errand i) (history i earlier)
  /-- No revision is given out twice. -/
  revisions : log.revisions.Nodup
  /-- No revision is given out that was given out before. -/
  newRevisions : ∀ r ∈ log.revisions, (∃ n, start.revision < n ∧ r = toString n) ∧
    (∀ name t, start.tenants.get? name = some t → t.metadata.revision ≠ some r) ∧
    ∀ name c, start.clusters.get? name = some c → c.metadata.revision ≠ some r
  /-- Between two creations of a tenant it is deleted. -/
  tenantsOnce : ∀ later second between first earlier i j t x u y,
    log = later ++ second :: (between ++ first :: earlier) →
    first.Calls i (.createTenant t) (.ok x) → second.Calls j (.createTenant u) (.ok y) →
    t.name = u.name → ∃ entry ∈ between, ∃ k, entry.Calls k (.deleteTenant t.name) (.ok ())
  /-- Between two creations of a cluster it is deleted. -/
  clustersOnce : ∀ later second between first earlier i j c x d y,
    log = later ++ second :: (between ++ first :: earlier) →
    first.Calls i (.createCluster c) (.ok x) → second.Calls j (.createCluster d) (.ok y) →
    c.name = d.name → ∃ entry ∈ between, ∃ k, entry.Calls k (.deleteCluster c.name) (.ok ())

theorem Recorded.noLostUpdate {errand : ι → Errand} {start m : Memory} {log : Log ι}
    (h : Recorded errand start log m) (hs : start.IsSound) : log.NoLostUpdate errand start where
  ownChange := by
    intro later entry earlier i action x hlog hdeed
    obtain ⟨hearlier, hhappens, hallows⟩ := h.earlier hlog
    exact hearlier.isOwnChange hs hhappens hdeed (hallows i action x hdeed)
  revisions := h.nodup_revisions hs
  newRevisions := by
    intro r hr
    obtain ⟨n, hn, -, hrn⟩ := (h.exists_of_mem_revisions hs).2 r hr
    have hnew : ∀ d : Metadata, IsIssued start.revision d → d.revision ≠ some r := by
      rintro d ⟨i, hi, hd⟩ heq
      rw [hd, hrn, Option.some.injEq] at heq
      have := toString_injective heq
      omega
    exact ⟨⟨n, hn, hrn⟩, fun name t ht => hnew _ (hs.tenants.issued name t ht),
      fun name c hc => hnew _ (hs.clusters.issued name c hc)⟩
  tenantsOnce := by
    intro later second between first earlier i j t x u y hlog hfirst hsecond hname
    apply Classical.byContradiction
    intro hno
    obtain ⟨hbefore, hhappens, -⟩ := h.earlier hlog
    obtain ⟨-, hhappens', -⟩ := hbefore.earlier rfl
    have hin := hbefore.tenant_stays (hhappens'.createTenant hfirst).2
      (fun e he k hk => hno ⟨e, he, k, hk⟩)
    rw [hname, (hhappens.createTenant hsecond).1] at hin
    cases hin
  clustersOnce := by
    intro later second between first earlier i j c x d y hlog hfirst hsecond hname
    apply Classical.byContradiction
    intro hno
    obtain ⟨hbefore, hhappens, -⟩ := h.earlier hlog
    obtain ⟨-, hhappens', -⟩ := hbefore.earlier rfl
    have hin := hbefore.cluster_stays (hhappens'.createCluster hfirst).2
      (fun e he k hk => hno ⟨e, he, k, hk⟩)
    rw [hname, (hhappens.createCluster hsecond).1] at hin
    cases hin

end Service

/-- Whatever requests run on a store in memory, and however their steps are interleaved, no update
is lost. -/
theorem no_lost_update [DecidableEq ι] (world : World) (h : world.store.Built)
    (client : ι → Client) (errand : ι → Errand) (moves : List (Move ι)) :
    ((Workshop.ofErrands world client errand).run moves).log.NoLostUpdate errand world.store := by
  have hs := h.isSound
  exact (Workshop.isOrderly_run_ofErrands hs client errand moves).recorded.noLostUpdate hs

/-! #### Two updates of one cluster -/

namespace Service.Rivalry

/-- A store with a cluster. -/
def store : Memory :=
  (Memory.writeCluster { ns := "fleet" } { metadata := { name := some "c-1" } }).2

def world : World := { World.empty "fleet" 1 with store := store }

/-- Two parties give the cluster different names to show. -/
def errand (first : Bool) : Errand :=
  .updateCluster ⟨{}, "", ⟨0, 0⟩, fun _ => 0⟩ "c-1"
    { displayName := some (if first then "one" else "other") }

def client (_ : Bool) : Client := ⟨none, 0⟩

/-- They take turns. -/
def moves : List (Move Bool) := [.act true, .act false, .act true, .act false]

/-- Only the update that is written first succeeds. -/
theorem no_lost_update_rivalry : store.Built ∧
    ((Workshop.ofErrands world client errand).run moves).log.revisions = ["2"] ∧
    ((Workshop.ofErrands world client errand).run moves).log.NoLostUpdate errand store := by
  have hbuilt : store.Built := .writeCluster _ (.empty "fleet")
  refine ⟨hbuilt, ?_, ?_⟩
  · decide +kernel
  · exact no_lost_update world hbuilt client errand moves

end Service.Rivalry
end Fleet

import Fleet.Proofs.Exchange.Take
import Fleet.Proofs.Service.Alone
import Fleet.Proofs.Service.Workshop
import Fleet.Proofs.Store.Renaming

/-! # Work in a world with other bootstrap tokens

A world is renamed with its store (`World.rename`).  Two programs mirror each other if, whatever the
world, what the first one does in it the second one does in the renamed world (`Mirrors`): their
results are related, and the world that the second one leaves is the renamed one that the first one
leaves.  Every errand but a handshake mirrors itself, with equal results, if the tokens that are
renamed cannot be used at its time (`mirrors_work`). -/

namespace Fleet.Service

open Resource Store

variable {α β γ δ ε ε' : Type} {π : Renaming}

namespace World

/-- The world with other bootstrap tokens. -/
def rename (π : Renaming) (w : World) : World := { w with store := w.store.rename π }

/-- Actions keep stores sound. -/
theorem isSound_store_answer {w : World} (hs : w.store.IsSound) (a : Action) :
    (w.answer a).2.store.IsSound := by
  cases a with
  | call client c => exact hs.steps (Memory.steps_answer hs c)
  | lookup | count | readCounters => exact hs
  | build token => exact (Workshop.store_build w (some token)) ▸ hs
  | remember token client => exact (Workshop.store_remember w token client) ▸ hs
  | ownClient => exact (Workshop.store_ownClient w) ▸ hs

theorem isSound_store_run {w : World} (hs : w.store.IsSound) (p : Work α) :
    (w.run p).2.store.IsSound := by
  induction p generalizing w with
  | done a => exact hs
  | act a next ih => exact ih (w.answer a).1 (isSound_store_answer hs a)

end World

/-! ### Results -/

/-- Both fail for the same reason, or both succeed and are related. -/
inductive Agrees (F : α → β → Prop) : Except ε α → Except ε β → Prop where
  | error (e : ε) : Agrees F (.error e) (.error e)
  | ok {a : α} {b : β} : F a b → Agrees F (.ok a) (.ok b)

theorem agrees_refl (r : Except ε α) : Agrees Eq r r := by
  cases r with
  | error e => exact .error e
  | ok a => exact .ok rfl

theorem Agrees.eq {r r' : Except ε α} (h : Agrees Eq r r') : r = r' := by
  cases h with
  | error e => rfl
  | ok h => rw [h]

theorem agrees_map {F : α → β → Prop} {f : α → β} {r : Except ε α}
    (h : ∀ a, r = .ok a → F a (f a)) : Agrees F r (r.map f) := by
  cases r with
  | error e => exact .error e
  | ok a => exact .ok (h a rfl)

/-! ### Programs -/

/-- What `p` does in a world, `q` does in the renamed one, with related results. -/
def Mirrors (π : Renaming) (F : α → β → Prop) (p : Work α) (q : Work β) : Prop :=
  ∀ w : World, w.store.IsSound →
    F (w.run p).1 ((w.rename π).run q).1 ∧ ((w.rename π).run q).2 = (w.run p).2.rename π

/-- Tasks that mirror each other are also refused for the same reason. -/
abbrev MirrorsTask (π : Renaming) (F : α → β → Prop) (t : ExceptT ε Work α)
    (t' : ExceptT ε Work β) : Prop := Mirrors π (Agrees F) t.run t'.run

section Rules

variable {F : α → β → Prop} {G : γ → δ → Prop}

theorem mirrors_pure {a : α} {b : β} (h : F a b) : Mirrors π F (pure a) (pure b) :=
  fun _ _ => ⟨h, rfl⟩

theorem Mirrors.bind {p : Work α} {q : Work β} {f : α → Work γ} {g : β → Work δ}
    (hp : Mirrors π F p q) (hf : ∀ a b, F a b → Mirrors π G (f a) (g b)) :
    Mirrors π G (p >>= f) (q >>= g) := by
  intro w hs
  obtain ⟨hresults, hworld⟩ := hp w hs
  rw [World.run_bind, World.run_bind, hworld]
  exact hf _ _ hresults _ (World.isSound_store_run hs p)

theorem Mirrors.map {p q : Work (Except ε α)} (h : Mirrors π (Agrees Eq) p q)
    (f : Except ε α → γ) : Mirrors π Eq (f <$> p) (f <$> q) := by
  rw [map_eq_pure_bind, map_eq_pure_bind]
  refine h.bind ?_
  intro r r' hr
  exact mirrors_pure (congrArg f hr.eq)

/-- An action that is not a call does not look at the store. -/
theorem mirrors_perform {a : Action} (h : ∀ client c, a ≠ .call client c) :
    Mirrors π Eq (Work.perform a) (Work.perform a) := by
  rintro ⟨store, cache, own, built, counters, outage⟩ -
  cases a with
  | call client c => exact absurd rfl (h client c)
  | lookup | count | readCounters => exact ⟨rfl, rfl⟩
  | build token => cases outage <;> exact ⟨rfl, rfl⟩
  | remember token client =>
      refine ⟨rfl, ?_⟩
      change World.remember _ token client = (World.remember _ token client).rename π
      unfold World.remember World.rename
      dsimp only
      generalize cache.insert token client = inserted
      obtain ⟨evicted, cache'⟩ := inserted
      cases evicted <;> rfl
  | ownClient => cases own <;> cases outage <;> exact ⟨rfl, rfl⟩

/-! #### Tasks -/

theorem mirrors_task_pure {a : α} {b : β} (h : F a b) :
    MirrorsTask π F (pure a : ExceptT ε Work α) (pure b) := mirrors_pure (.ok h)

theorem mirrors_throw (e : ε) : MirrorsTask π F (throw e : ExceptT ε Work α) (throw e) :=
  mirrors_pure (.error e)

theorem MirrorsTask.bind {t : ExceptT ε Work α} {t' : ExceptT ε Work β} {f : α → ExceptT ε Work γ}
    {g : β → ExceptT ε Work δ} (ht : MirrorsTask π F t t')
    (hf : ∀ a b, F a b → MirrorsTask π G (f a) (g b)) :
    MirrorsTask π G (t >>= f) (t' >>= g) := by
  refine Mirrors.bind (f := ExceptT.bindCont f) (g := ExceptT.bindCont g) ht ?_
  intro r r' hr
  cases hr with
  | error e => exact mirrors_pure (.error e)
  | ok h => exact hf _ _ h

/-- Tasks with equal results go on the same. -/
theorem MirrorsTask.bind_eq {t t' : ExceptT ε Work α} {f : α → ExceptT ε Work γ}
    {g : α → ExceptT ε Work δ} (ht : MirrorsTask π Eq t t')
    (hf : ∀ a, MirrorsTask π G (f a) (g a)) : MirrorsTask π G (t >>= f) (t' >>= g) := by
  refine ht.bind ?_
  rintro a _ rfl
  exact hf a

theorem mirrors_except {r : Except ε α} {r' : Except ε β} (h : Agrees F r r') :
    MirrorsTask π F (liftM r : ExceptT ε Work α) (liftM r' : ExceptT ε Work β) := by
  cases h with
  | error e => exact mirrors_pure (.error e)
  | ok h => exact mirrors_pure (.ok h)

theorem mirrors_of {refusal : ε' → Refusal} {r : Except ε' α} {r' : Except ε' β}
    (h : Agrees F r r') : MirrorsTask π F (Task.of refusal r) (Task.of refusal r') := by
  cases h with
  | error e => exact mirrors_pure (.error (refusal e))
  | ok h => exact mirrors_pure (.ok h)

theorem mirrors_lift {p : Work α} {q : Work β} (h : Mirrors π F p q) :
    MirrorsTask π F (liftM p : ExceptT ε Work α) (liftM q : ExceptT ε Work β) :=
  Mirrors.bind (f := fun a => pure (Except.ok a)) (g := fun b => pure (Except.ok b)) h
    (fun _ _ hab => mirrors_pure (.ok hab))

theorem mirrors_retryOnce {attempt : Nat → Work (Except StoreError α)}
    {attempt' : Nat → Work (Except StoreError β)}
    (h : ∀ n, Mirrors π (Agrees F) (attempt n) (attempt' n)) :
    Mirrors π (Agrees F) (Store.retryOnce attempt) (Store.retryOnce attempt') := by
  refine (h 0).bind ?_
  intro r r' hr
  cases hr with
  | ok h => exact mirrors_pure (.ok h)
  | error e =>
      dsimp only
      split
      · exact h 1
      · exact mirrors_pure (.error e)

end Rules

/-! ### Calls -/

section Calls

variable {client : Client}

theorem mirrors_call {c d : Call} {F : c.Result → d.Result → Prop}
    (h : ∀ m : Memory, m.IsSound → Agrees F (m.answer c).1 ((m.rename π).answer d).1 ∧
      ((m.rename π).answer d).2 = (m.answer c).2.rename π) :
    Mirrors π (Agrees F) (Work.call client c) (Work.call client d) := by
  intro w hs
  obtain ⟨hresults, hstore⟩ := h w.store hs
  exact ⟨hresults, congrArg (fun m => ({ w with store := m } : World)) hstore⟩

theorem mirrors_ask {c d : Call} {F : c.Result → d.Result → Prop}
    (h : Mirrors π (Agrees F) (Work.call client c) (Work.call client d)) :
    MirrorsTask π F (Task.ask client c) (Task.ask client d) :=
  MirrorsTask.bind (mirrors_lift h) (fun _ _ hr => mirrors_of hr)

/-- What is asked has nothing to do with clusters. -/
theorem mirrors_quiet {c : Call} (h : c.IsQuiet) :
    MirrorsTask π Eq (Task.ask client c) (Task.ask client c) := by
  refine mirrors_ask (mirrors_call (fun m _ => ?_))
  rw [Memory.answer_rename h]
  exact ⟨agrees_refl _, rfl⟩

theorem mirrors_ask_listClusters (tenant : Option String) :
    MirrorsTask π (fun (l l' : List Cluster) => l' = l.map (Cluster.rename π))
      (Task.ask client (.listClusters tenant)) (Task.ask client (.listClusters tenant)) := by
  refine mirrors_ask (mirrors_call (c := .listClusters tenant) (d := .listClusters tenant)
    (fun m _ => ⟨.ok ?_, rfl⟩))
  exact Memory.clustersOf_rename π m tenant

theorem mirrors_call_getCluster (name : String) :
    Mirrors π (Agrees fun (c c' : Cluster) => c' = c.rename π)
      (Work.call client (.getCluster name)) (Work.call client (.getCluster name)) := by
  refine mirrors_call (c := .getCluster name) (d := .getCluster name) (fun m _ => ⟨?_, rfl⟩)
  change Agrees _ (Memory.found clusterKind name (m.clusters.get? name))
    (Memory.found clusterKind name ((m.rename π).clusters.get? name))
  rw [Memory.get?_rename]
  cases m.clusters.get? name with
  | none => exact .error _
  | some c => exact .ok rfl

theorem mirrors_ask_createCluster (c : Cluster) :
    MirrorsTask π (fun (a b : Cluster) => b = a.rename π) (Task.ask client (.createCluster c))
      (Task.ask client (.createCluster (c.rename π))) := by
  refine mirrors_ask (mirrors_call (c := .createCluster c) (d := .createCluster (c.rename π))
    (fun m _ => ?_))
  have hanswer : (m.rename π).answer (.createCluster (c.rename π)) = _ :=
    Memory.createCluster_rename π m c
  rw [hanswer]
  exact ⟨agrees_map (fun _ _ => rfl), rfl⟩

theorem mirrors_ask_updateCluster (c : Cluster) :
    MirrorsTask π (fun (a b : Cluster) => b = a.rename π ∧ a.name = c.name)
      (Task.ask client (.updateCluster c)) (Task.ask client (.updateCluster (c.rename π))) := by
  refine mirrors_ask (mirrors_call (c := .updateCluster c) (d := .updateCluster (c.rename π))
    (fun m hs => ?_))
  have hanswer : (m.rename π).answer (.updateCluster (c.rename π)) = _ :=
    Memory.updateCluster_rename hs c
  rw [hanswer]
  refine ⟨agrees_map (fun a ha => ⟨rfl, ?_⟩), rfl⟩
  rcases Memory.answer_updateCluster m c with ⟨_, _, _, hm⟩ | ⟨e, hm⟩
  · have ha : (m.answer (.updateCluster c)).1 = .ok a := ha
    rw [hm] at ha
    cases ha
    rfl
  · have ha : (m.answer (.updateCluster c)).1 = .ok a := ha
    rw [hm] at ha
    cases ha

theorem mirrors_call_updateClusterStatus (c : Cluster) :
    Mirrors π (Agrees fun (a b : Cluster) => b = a.rename π)
      (Work.call client (.updateClusterStatus c))
      (Work.call client (.updateClusterStatus (c.rename π))) := by
  refine mirrors_call (c := .updateClusterStatus c) (d := .updateClusterStatus (c.rename π))
    (fun m hs => ?_)
  have hanswer : (m.rename π).answer (.updateClusterStatus (c.rename π)) = _ :=
    Memory.updateClusterStatus_rename hs c
  rw [hanswer]
  exact ⟨agrees_map (fun _ _ => rfl), rfl⟩

end Calls

/-! ### Tenants -/

section Tenants

variable {client : Client}

theorem mirrors_listTenants :
    MirrorsTask π Eq (Tenants.list client) (Tenants.list client) := by
  unfold Tenants.list
  exact (mirrors_quiet (c := .listTenants) trivial).bind_eq (fun _ => mirrors_task_pure rfl)

theorem mirrors_createTenant (config : Config) (words : Words) (t : Record.Tenant) :
    MirrorsTask π Eq (Tenants.create config words client t)
      (Tenants.create config words client t) := by
  unfold Tenants.create
  refine (mirrors_of (agrees_refl _)).bind_eq (fun tenant => ?_)
  exact (mirrors_quiet (c := .createTenant tenant) trivial).bind_eq
    (fun _ => mirrors_task_pure rfl)

theorem mirrors_getTenant (id : String) :
    MirrorsTask π Eq (Tenants.get client id) (Tenants.get client id) := by
  unfold Tenants.get
  exact (mirrors_quiet (c := .getTenant id) trivial).bind_eq (fun _ => mirrors_task_pure rfl)

theorem mirrors_updateTenant (id : String) (p : Record.TenantProperties) :
    MirrorsTask π Eq (Tenants.update client id p) (Tenants.update client id p) := by
  unfold Tenants.update
  refine (mirrors_quiet (c := .getTenant id) trivial).bind_eq (fun found => ?_)
  refine (mirrors_of (agrees_refl _)).bind_eq (fun changed => ?_)
  exact (mirrors_quiet (c := .updateTenant changed) trivial).bind_eq
    (fun _ => mirrors_task_pure rfl)

end Tenants

/-! ### Clusters -/

section Clusters

variable {client : Client} {x : Clusters.Context}

/-- A token that is renamed shows no more than the one that it stands for. -/
theorem filter_usableAt_rename {now : Instant} (h : π.IsIdleAt now) (c : Cluster) :
    (c.rename π).bootstrapToken?.filter (fun t => t.usableAt now) =
      c.bootstrapToken?.filter (fun t => t.usableAt now) := by
  rw [Cluster.bootstrapToken?_rename]
  cases c.bootstrapToken? with
  | none => rfl
  | some t =>
      rw [Option.map_some]
      by_cases ht : π c.name t = t
      · rw [ht]
      · have hrenamed : π c.name (π c.name t) ≠ π c.name t :=
          fun heq => ht ((π c.name).injective heq)
        simp [Option.filter, h _ _ ht, h _ _ hrenamed]

theorem show?_rename (h : π.IsIdleAt x.now) (c : Cluster) :
    Clusters.show? x.base x.now (c.rename π) = Clusters.show? x.base x.now c := by
  have hrecord : Exchange.Cluster.toRecord (c.rename π) = Exchange.Cluster.toRecord c := by
    obtain ⟨metadata, spec, status⟩ := c
    cases status <;> rfl
  unfold Clusters.show?
  dsimp only
  rw [hrecord, filter_usableAt_rename h]

theorem mapM_show?_rename (h : π.IsIdleAt x.now) (l : List Cluster) :
    (l.map (Cluster.rename π)).mapM (Clusters.show? x.base x.now) =
      l.mapM (Clusters.show? x.base x.now) := by
  induction l with
  | nil => rfl
  | cons c l ih => rw [List.map_cons, List.mapM_cons, List.mapM_cons, ih, show?_rename h]

theorem mirrors_render (h : π.IsIdleAt x.now) (c : Cluster) :
    MirrorsTask π Eq (Clusters.render x c) (Clusters.render x (c.rename π)) := by
  unfold Clusters.render
  rw [show?_rename h]
  exact mirrors_of (agrees_refl _)

/-- What is written of an observed state is renamed with it; whether it is written does not depend on
the token, since different tokens stay different. -/
theorem mirrors_writeStatus (client : Client) (written : Cluster) (status : Option ClusterStatus) :
    MirrorsTask π (fun (a b : Cluster) => b = a.rename π)
      (Clusters.writeStatus client written status)
      (Clusters.writeStatus client (written.rename π)
        (status.map (ClusterStatus.rename (π written.name)))) := by
  have hsame : (status.map (ClusterStatus.rename (π written.name))).isNone ∨
      (written.rename π).status = status.map (ClusterStatus.rename (π written.name)) ↔
      status.isNone ∨ written.status = status := by
    rw [Option.isNone_map]
    exact or_congr_right
      (Option.map_injective (ClusterStatus.rename_injective (π written.name))).eq_iff
  by_cases h : status.isNone ∨ written.status = status
  · rw [Errand.writeStatus_of_same h, Errand.writeStatus_of_same (hsame.2 h)]
    exact mirrors_task_pure rfl
  · rw [Errand.writeStatus_of_other h, Errand.writeStatus_of_other (mt hsame.1 h)]
    exact mirrors_ask (c := .updateClusterStatus { written with status := status })
      (d := .updateClusterStatus (Cluster.rename π { written with status := status }))
      (mirrors_call_updateClusterStatus _)

/-- A new cluster has no token to rename. -/
theorem mirrors_store {c : Cluster} (hc : c.bootstrapToken? = none) :
    MirrorsTask π (fun (a b : Cluster) => b = a.rename π) (Clusters.store x client c)
      (Clusters.store x client c) := by
  have hstatus : ∀ f : Equiv.Perm BootstrapToken,
      c.status.map (ClusterStatus.rename f) = c.status := by
    intro f
    have hself : c.rename (fun _ => f) = c :=
      Cluster.rename_eq_self (fun t ht => by rw [hc] at ht; cases ht)
    exact congrArg Cluster.status hself
  unfold Clusters.store
  dsimp only
  refine (mirrors_ask_createCluster { Exchange.Cluster.stampInstance x.config.instanceName
    { c with metadata.ns := some x.config.ns } with status := none }).bind ?_
  rintro created _ rfl
  have hwrites := mirrors_writeStatus (π := π) client created c.status
  rw [hstatus] at hwrites
  exact hwrites

theorem mirrors_listClusters (h : π.IsIdleAt x.now) (q : ListQuery) :
    MirrorsTask π Eq (Clusters.list x client q) (Clusters.list x client q) := by
  unfold Clusters.list
  refine (mirrors_ask_listClusters _).bind ?_
  rintro clusters _ rfl
  rw [mapM_show?_rename h]
  exact (mirrors_of (agrees_refl _)).bind_eq (fun _ => mirrors_task_pure rfl)

theorem mirrors_getCluster (h : π.IsIdleAt x.now) (id : String) :
    MirrorsTask π Eq (Clusters.get x client id) (Clusters.get x client id) := by
  unfold Clusters.get
  refine (mirrors_ask (mirrors_call_getCluster id)).bind ?_
  rintro found _ rfl
  exact mirrors_render h found

/-- A record tells of a new cluster, which has no token. -/
theorem mirrors_prepare (record : Record.Cluster) :
    MirrorsTask π (fun c d => d = c ∧ c.bootstrapToken? = none)
      (liftM (Clusters.prepare x record) : Task Cluster)
      (liftM (Clusters.prepare x record) : Task Cluster) := by
  refine mirrors_except ?_
  cases hprepared : Clusters.prepare x record with
  | error e => exact .error e
  | ok c =>
      have hprepared : (Errand.createCluster x record).Prepared c := hprepared
      exact .ok ⟨rfl, hprepared.bootstrapToken?⟩

theorem mirrors_createCluster (h : π.IsIdleAt x.now) (record : Record.Cluster) :
    MirrorsTask π Eq (Clusters.create x client record) (Clusters.create x client record) := by
  unfold Clusters.create
  refine (mirrors_prepare record).bind ?_
  rintro _ c ⟨rfl, hc⟩
  refine (mirrors_store hc).bind ?_
  rintro created _ rfl
  exact mirrors_render h created

/-- Properties do not concern the token. -/
theorem amended_rename (p : Record.ClusterProperties) (template : Option RepoTemplate)
    (m : Option CompileMeta) (c : Cluster) :
    Exchange.Cluster.amended p template m (c.rename π) =
      (Exchange.Cluster.amended p template m c).rename π := by
  have hstatus : ∀ f : Equiv.Perm BootstrapToken,
      Exchange.Cluster.statusAfter p.dynamicFacts m (c.status.map (ClusterStatus.rename f)) =
        (Exchange.Cluster.statusAfter p.dynamicFacts m c.status).map
          (ClusterStatus.rename f) := by
    intro f
    unfold Exchange.Cluster.statusAfter
    split
    · rfl
    · cases c.status <;> rfl
  exact congrArg (fun status => { Exchange.Cluster.amended p template m c with status := status })
    (hstatus (π c.name))

theorem result_take_rename (p : Record.ClusterProperties) (c : Cluster) :
    (Exchange.Cluster.take p).result (c.rename π) =
      ((Exchange.Cluster.take p).result c).map (Cluster.rename π) := by
  rw [Exchange.Cluster.result_take, Exchange.Cluster.result_take]
  simp only [amended_rename, Cluster.rename_spec, Cluster.rename_name]
  cases Exchange.templateAfter p.gitRepo c.spec.gitRepoUrl c.name c.spec.gitRepoTemplate with
  | error e => rfl
  | ok template => cases p.compileMeta.mapM Exchange.Cluster.compileMeta <;> rfl

theorem mirrors_updateCluster (h : π.IsIdleAt x.now) (id : String)
    (p : Record.ClusterProperties) :
    MirrorsTask π Eq (Clusters.update x client id p) (Clusters.update x client id p) := by
  unfold Clusters.update
  refine (mirrors_ask (mirrors_call_getCluster id)).bind ?_
  rintro (found : Cluster) _ rfl
  have hchanged : Agrees (fun c d => d = c.rename π) ((Exchange.Cluster.take p).result found)
      ((Exchange.Cluster.take p).result (found.rename π)) := by
    rw [result_take_rename]
    exact agrees_map (fun _ _ => rfl)
  refine (mirrors_of hchanged).bind ?_
  rintro changed _ rfl
  refine (mirrors_ask_updateCluster changed).bind ?_
  rintro updated _ ⟨rfl, hname⟩
  have hwrites := mirrors_writeStatus (π := π) client updated changed.status
  rw [hname] at hwrites
  refine hwrites.bind ?_
  rintro shown _ rfl
  exact mirrors_render h shown

/-- A cluster that is replaced keeps its token. -/
theorem replaceBy_rename (found given : Cluster) :
    Clusters.replaceBy (found.rename π) given = (Clusters.replaceBy found given).rename π := rfl

theorem mirrors_putCluster (h : π.IsIdleAt x.now) (id : String) (record : Record.Cluster) :
    MirrorsTask π Eq (Clusters.put x client id record) (Clusters.put x client id record) := by
  unfold Clusters.put
  refine (mirrors_prepare { record with id := id }).bind ?_
  rintro _ given ⟨rfl, hgiven⟩
  refine (mirrors_lift (mirrors_call_getCluster given.name)).bind ?_
  intro r r' hr
  cases hr with
  | @ok found _ hfound =>
      subst hfound
      dsimp only
      rw [replaceBy_rename]
      refine (mirrors_ask_updateCluster (Clusters.replaceBy found given)).bind ?_
      rintro updated _ ⟨rfl, -⟩
      exact (mirrors_render h updated).bind_eq (fun _ => mirrors_task_pure rfl)
  | error e =>
      dsimp only
      split
      · refine (mirrors_store hgiven).bind ?_
        rintro created _ rfl
        exact (mirrors_render h created).bind_eq (fun _ => mirrors_task_pure rfl)
      · exact mirrors_throw (Refusal.store e)

theorem mirrors_reportCompilation (id : String) (report : Record.CompileReport) :
    MirrorsTask π Eq (Clusters.reportCompilation client id report)
      (Clusters.reportCompilation client id report) := by
  unfold Clusters.reportCompilation Clusters.writeCompileMeta
  refine (mirrors_of (agrees_refl _)).bind_eq (fun m => ?_)
  refine (mirrors_lift (mirrors_retryOnce
    (F := fun (a b : Cluster) => b = a.rename π) (fun _ => ?_))).bind ?_
  · refine (mirrors_call_getCluster id).bind ?_
    intro r r' hr
    cases hr with
    | error e => exact mirrors_pure (.error e)
    | @ok c _ hc =>
        subst hc
        have hreported : Exchange.Cluster.setStatus (fun v s => { s with compileMeta := some v }) m
            (c.rename π) = (Exchange.Cluster.setStatus
              (fun v s => { s with compileMeta := some v }) m c).rename π := by
          obtain ⟨metadata, spec, status⟩ := c
          cases status <;> rfl
        dsimp only
        rw [hreported]
        exact mirrors_call_updateClusterStatus _
  · intro r r' hr
    refine (mirrors_of hr).bind ?_
    intro _ _ _
    exact mirrors_task_pure rfl

end Clusters

/-! ### Errands -/

/-- When an errand looks at bootstrap tokens, if it does. -/
def Errand.now? : Errand → Option Instant
  | .listClusters x _ | .getCluster x _ | .createCluster x _ | .updateCluster x _ _
  | .putCluster x _ _ => some x.now
  | .handshake _ now => some now
  | _ => none

theorem mirrors_work (client : Client) {e : Errand} (hne : ∀ q now, e ≠ .handshake q now)
    (h : ∀ now, e.now? = some now → π.IsIdleAt now) :
    Mirrors π Eq (e.work client) (e.work client) := by
  cases e with
  | listTenants => exact mirrors_listTenants.map Outcome.tenants
  | getTenant id => exact (mirrors_getTenant id).map Outcome.tenant
  | createTenant config words t => exact (mirrors_createTenant config words t).map Outcome.tenant
  | updateTenant id p => exact (mirrors_updateTenant id p).map Outcome.tenant
  | deleteTenant id => exact (mirrors_quiet (c := .deleteTenant id) trivial).map Outcome.nothing
  | listClusters x q => exact (mirrors_listClusters (h x.now rfl) q).map Outcome.clusters
  | getCluster x id => exact (mirrors_getCluster (h x.now rfl) id).map Outcome.cluster
  | createCluster x c => exact (mirrors_createCluster (h x.now rfl) c).map Outcome.cluster
  | updateCluster x id p => exact (mirrors_updateCluster (h x.now rfl) id p).map Outcome.cluster
  | putCluster x id c => exact (mirrors_putCluster (h x.now rfl) id c).map Outcome.put
  | deleteCluster id => exact (mirrors_quiet (c := .deleteCluster id) trivial).map Outcome.nothing
  | reportCompilation id report => exact (mirrors_reportCompilation id report).map Outcome.nothing
  | handshake q now => exact absurd rfl (hne q now)

end Fleet.Service

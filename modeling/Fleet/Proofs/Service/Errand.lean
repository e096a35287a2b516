import Fleet.Proofs.Contract
import Fleet.Proofs.Service.History
import Fleet.Proofs.Service.Prepare

/-! # Errands

An `Errand` is what a request has the service do, and `Errand.work` is the program that does it.

Each errand has a contract (`Errand.contract`): what it writes is its own change of the object that
it obtained last.  `NewTenant`, `ChangesTenant`, `NewCluster`, `Rewrites` and `Observes` say which
change that is. -/

namespace Fleet.Service

open Resource

/-! ### Errands -/

/-- What a request has the service do. -/
inductive Errand where
  | listTenants
  | getTenant (id : String)
  | createTenant (config : Config) (words : Words) (tenant : Record.Tenant)
  | updateTenant (id : String) (properties : Record.TenantProperties)
  | deleteTenant (id : String)
  | listClusters (x : Clusters.Context) (query : ListQuery)
  | getCluster (x : Clusters.Context) (id : String)
  | createCluster (x : Clusters.Context) (cluster : Record.Cluster)
  | updateCluster (x : Clusters.Context) (id : String) (properties : Record.ClusterProperties)
  | putCluster (x : Clusters.Context) (id : String) (cluster : Record.Cluster)
  | deleteCluster (id : String)
  | reportCompilation (id : String) (report : Record.CompileReport)
  | handshake (request : Handshake.Request) (now : Instant)

/-- What comes of an errand. -/
inductive Outcome where
  | tenants (result : Except Refusal (List Record.Tenant))
  | tenant (result : Except Refusal Record.Tenant)
  | clusters (result : Except Refusal (List Record.Cluster))
  | cluster (result : Except Refusal Record.Cluster)
  /-- Also tells whether the cluster is new. -/
  | put (result : Except Refusal (Bool × Record.Cluster))
  | nothing (result : Except Refusal Unit)
  | manifests (result : Except Handshake.HandshakeError Json.Value)

namespace Errand

/-- The program of an errand, which acts as a client of the store. -/
def work (client : Client) : Errand → Work Outcome
  | listTenants => .tenants <$> (Tenants.list client).run
  | getTenant id => .tenant <$> (Tenants.get client id).run
  | createTenant config words t => .tenant <$> (Tenants.create config words client t).run
  | updateTenant id p => .tenant <$> (Tenants.update client id p).run
  | deleteTenant id => .nothing <$> (Tenants.delete client id).run
  | listClusters x q => .clusters <$> (Clusters.list x client q).run
  | getCluster x id => .cluster <$> (Clusters.get x client id).run
  | createCluster x c => .cluster <$> (Clusters.create x client c).run
  | updateCluster x id p => .cluster <$> (Clusters.update x client id p).run
  | putCluster x id c => .put <$> (Clusters.put x client id c).run
  | deleteCluster id => .nothing <$> (Clusters.delete client id).run
  | reportCompilation id report => .nothing <$> (Clusters.reportCompilation client id report).run
  | handshake r now => .manifests <$> Handshake.run client r now

/-! ### Changes -/

/-- The tenant that the errand creates. -/
def NewTenant : Errand → Tenant → Prop
  | createTenant config words record, t => Tenants.prepare config words record = .ok t
  | _, _ => False

/-- What the errand makes of a tenant that it obtained. -/
def ChangesTenant : Errand → Tenant → Tenant → Prop
  | updateTenant _ p, found, t => (Exchange.Tenant.take p).result found = .ok t
  | _, _, _ => False

/-- The cluster that the errand asks for. -/
def Prepared : Errand → Cluster → Prop
  | createCluster x record, c => Clusters.prepare x record = .ok c
  | putCluster x id record, c => Clusters.prepare x { record with id := id } = .ok c
  | _, _ => False

/-- The context of an errand that may create clusters. -/
def context? : Errand → Option Clusters.Context
  | createCluster x _ | putCluster x _ _ => some x
  | _ => none

/-- The cluster that the errand creates, of which nothing is observed yet. -/
def NewCluster (e : Errand) (c : Cluster) : Prop :=
  ∃ x given, e.context? = some x ∧ e.Prepared given ∧
    c = { Exchange.Cluster.stampInstance x.config.instanceName
      { given with metadata.ns := some x.config.ns } with status := none }

/-- What the errand makes of a cluster that it obtained, apart from what is observed. -/
def Rewrites : Errand → Cluster → Cluster → Prop
  | updateCluster _ _ p, found, c => (Exchange.Cluster.take p).result found = .ok c
  | putCluster x id record, found, c => ∃ given, (putCluster x id record).Prepared given ∧
      given.name = found.name ∧ c = Clusters.replaceBy found given
  | _, _, _ => False

/-- What the errand makes of what is observed of a cluster that it obtained. -/
def Observes : Errand → Cluster → Cluster → Prop
  | updateCluster _ _ p, found, c => ∃ base changed, base.status = found.status ∧
      (Exchange.Cluster.take p).result base = .ok changed ∧
      c = { found with status := changed.status }
  | reportCompilation _ report, found, c => ∃ m, Exchange.Cluster.compileMeta report = .ok m ∧
      c = Exchange.Cluster.setStatus (fun v s => { s with compileMeta := some v }) m found
  | handshake r _, found, c => ∃ token ∈ r.token, Handshake.spend? found token = some c
  | e, found, c => ∃ given, e.Prepared given ∧ c = { found with status := given.status }

/-! ### What changes leave alone -/

section Changes

variable {e : Errand}

theorem exists_of_spend? {c spent : Cluster} {token : String}
    (hs : Handshake.spend? c token = some spent) :
    ∃ status t, c.status = some status ∧ status.bootstrapToken = some t ∧ t.token = token ∧
      t.valid = true ∧ spent = { c with status := some { status with
        bootstrapToken := some { t with valid := false } } } := by
  unfold Handshake.spend? at hs
  obtain ⟨status, hstatus, hs⟩ := Option.bind_eq_some_iff.1 hs
  obtain ⟨t, ht, hs⟩ := Option.bind_eq_some_iff.1 hs
  split at hs
  · next hcond =>
      rw [Bool.and_eq_true, beq_iff_eq] at hcond
      exact ⟨status, t, hstatus, ht, hcond.1, hcond.2, (Option.some.inj hs).symm⟩
  · cases hs

/-- A new cluster has no bootstrap token. -/
theorem Prepared.bootstrapToken? {c : Cluster} (h : e.Prepared c) : c.bootstrapToken? = none := by
  have hnone : ∀ {x : Clusters.Context} {record : Record.Cluster},
      Clusters.prepare x record = .ok c → c.bootstrapToken? = none := by
    intro x record h
    obtain ⟨id, -, -, -, htake⟩ := exists_of_prepareCluster h
    exact Exchange.Cluster.bootstrapToken_of_result_take htake
  cases e with
  | createCluster x record => exact hnone h
  | putCluster x id record => exact hnone h
  | _ => cases h

theorem ChangesTenant.revision {found t : Tenant} (h : e.ChangesTenant found t) :
    t.metadata.revision = found.metadata.revision := by
  cases e with
  | updateTenant id p => exact Exchange.Tenant.revision_of_result_take h
  | _ => cases h

theorem Rewrites.revision {found c : Cluster} (h : e.Rewrites found c) :
    c.metadata.revision = found.metadata.revision := by
  cases e with
  | updateCluster x id p => exact Exchange.Cluster.revision_of_result_take h
  | putCluster x id record =>
      obtain ⟨given, -, -, rfl⟩ := h
      rfl
  | _ => cases h

/-- Observations change nothing but the observed state. -/
theorem Observes.eq {found c : Cluster} (h : e.Observes found c) :
    c = { found with status := c.status } := by
  cases e with
  | updateCluster x id p =>
      obtain ⟨base, changed, -, -, rfl⟩ := h
      rfl
  | reportCompilation id report =>
      obtain ⟨m, -, rfl⟩ := h
      rfl
  | handshake r now =>
      obtain ⟨token, -, hs⟩ := h
      obtain ⟨status, t, -, -, -, -, rfl⟩ := exists_of_spend? hs
      rfl
  | _ =>
      obtain ⟨given, -, rfl⟩ := h
      rfl

theorem Observes.revision {found c : Cluster} (h : e.Observes found c) :
    c.metadata.revision = found.metadata.revision := by
  rw [h.eq]

theorem Observes.bootstrapToken?_updateCluster {x : Clusters.Context} {id : String}
    {p : Record.ClusterProperties} {found c : Cluster} (h : (updateCluster x id p).Observes found c) :
    c.bootstrapToken? = found.bootstrapToken? := by
  obtain ⟨base, changed, hbase, htake, rfl⟩ := h
  have htoken := Exchange.Cluster.bootstrapToken_of_result_take htake
  unfold Cluster.bootstrapToken? at htoken ⊢
  rw [hbase] at htoken
  exact htoken

theorem Observes.bootstrapToken?_reportCompilation {id : String} {report : Record.CompileReport}
    {found c : Cluster} (h : (reportCompilation id report).Observes found c) :
    c.bootstrapToken? = found.bootstrapToken? := by
  obtain ⟨m, -, rfl⟩ := h
  unfold Exchange.Cluster.setStatus Cluster.bootstrapToken?
  cases found.status <;> rfl

/-- An observation leaves the bootstrap token of a cluster alone, or marks it as used. -/
theorem Observes.bootstrapToken? {found c : Cluster} (h : e.Observes found c) :
    c.bootstrapToken? = found.bootstrapToken? ∨
      c.bootstrapToken?.any (fun t => t.valid) = false := by
  cases e with
  | updateCluster x id p => exact Or.inl h.bootstrapToken?_updateCluster
  | reportCompilation id report => exact Or.inl h.bootstrapToken?_reportCompilation
  | handshake r now =>
      obtain ⟨token, -, hs⟩ := h
      obtain ⟨status, t, -, -, -, -, rfl⟩ := exists_of_spend? hs
      exact Or.inr rfl
  | _ =>
      obtain ⟨given, hgiven, rfl⟩ := h
      have htoken := hgiven.bootstrapToken?
      unfold Cluster.bootstrapToken? at htoken ⊢
      rw [htoken]
      exact Or.inr rfl

end Changes

/-! ### Contracts -/

/-- What an errand relies on: answers are about what was asked for, and a write of a cluster leaves
alone what is observed of it. -/
def relies (h : History) : (a : Action) → a.Answer → Prop
  | .call _ (.listClusters _), .ok l => (l.map Cluster.name).Nodup
  | .call _ (.getTenant name), .ok t => Tenant.name t = name
  | .call _ (.getCluster name), .ok c => Cluster.name c = name
  | .call _ (.createCluster given), .ok c =>
    Cluster.name c = given.name ∧ Cluster.status c = none
  | .call _ (.updateCluster given), .ok c =>
    Cluster.name c = given.name ∧
      ∀ found, lastCluster given.name h = some found → Cluster.status c = found.status
  | _, _ => True

/-- What an errand is allowed to write: its own new objects, and its own changes of what it obtained
last.  If it may create clusters, then what it observes is of one of which nothing was observed before.
A cluster is deleted only if it is asked for. -/
def allows (e : Errand) (h : History) : Action → Prop
  | .call _ (.createTenant t) => e.NewTenant t
  | .call _ (.updateTenant t) =>
    ∃ found, lastTenant t.name h = some found ∧ e.ChangesTenant found t
  | .call _ (.createCluster c) => e.NewCluster c
  | .call _ (.updateCluster c) => ∃ found, lastCluster c.name h = some found ∧ e.Rewrites found c
  | .call _ (.updateClusterStatus c) =>
    ∃ found, lastCluster c.name h = some found ∧ e.Observes found c ∧
      (e.context?.isSome → found.status = none)
  | .call _ (.deleteCluster name) => e = deleteCluster name
  | _ => True

/-- The contract of an errand. -/
def contract (e : Errand) : Contract Action.Answer History where
  learn h a x := ⟨a, x⟩ :: h
  relies := relies
  allows := e.allows

/-- The observed state of a cluster was written. -/
def HasObserved (h : History) (name : String) : Prop :=
  ∃ client c x, c.name = name ∧ ⟨.call client (.updateClusterStatus c), .ok x⟩ ∈ h

/-- How an errand ends: only handshakes give manifests, and only after the observed state of their
cluster was written. -/
def ends (e : Errand) (h : History) : Outcome → Prop
  | .manifests (.ok v) => ∃ r now b, e = handshake r now ∧ v = Handshake.bundle b ∧
      HasObserved h b.cluster
  | _ => True

end Errand
end Fleet.Service

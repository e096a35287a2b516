import Fleet.Proofs.Service.Alone
import Fleet.Proofs.Service.Identity
import Fleet.Proofs.Service.Workshop

/-! # Handshakes that are alone

A handshake that has the store to itself ends in one of two ways.  It is refused, for a reason that
the store tells (`IsRefused`), and leaves everything as it was; or it gives the manifests of the
cluster that it found, and nothing else of the store changes but the token of that cluster
(`Serves`).  In particular the token that it has checked is still unused when it marks it.

Main statements: `run_handshake`, which says where a handshake stops (`Stops`) or what it gives
(`Gives`), and the very world that it leaves; and `exists_respond_install` for the request that asks
for one. -/

namespace Fleet

open Http Resource Store Service

/-! ### How handshakes end -/

/-- A cluster that was found by a token holds it. -/
theorem Handshake.exists_of_withToken? {clusters : List Cluster} {token : String} {c : Cluster}
    (h : withToken? clusters token = some c) :
    c ∈ clusters ∧ ∃ t, c.bootstrapToken? = some t ∧ t.token = token := by
  unfold withToken? at h
  refine ⟨List.mem_of_find?_eq_some h, ?_⟩
  have hholds := List.find?_some h
  rw [Option.any_eq_true] at hholds
  obtain ⟨t, ht, htoken⟩ := hholds
  exact ⟨t, ht, beq_iff_eq.1 htoken⟩

namespace Handshake.Request

/-- The handshake presents a token, and finds a cluster by it. -/
structure Finds (r : Request) (m : Memory) (token : String) (c : Cluster) : Prop where
  presents : r.token = some token
  nonempty : token ≠ ""
  found : withToken? m.clusters.values token = some c

/-- Why a handshake is refused. -/
inductive IsRefused (r : Request) (now : Instant) (m : Memory) : HandshakeError → Prop where
  | missing : r.token.filter (fun t => !t.isEmpty) = none → IsRefused r now m .missingToken
  | invalid {token : String} : r.token = some token → withToken? m.clusters.values token = none →
    IsRefused r now m .invalidToken
  | unusable {token : String} {c : Cluster} : r.Finds m token c → check c now ≠ .ok () →
    IsRefused r now m .tokenExpiredOrUsed
  | noAccount {token : String} {c : Cluster} : r.Finds m token c → check c now = .ok () →
    accountToken? m.secrets c.name = none → IsRefused r now m (.noAccountToken c.name)
  /-- Both writes of its commit are to conflict. -/
  | conflicts {token : String} {c : Cluster} : r.Finds m token c → check c now = .ok () →
    1 < m.conflicts → IsRefused r now m (.store (.modified clusterKind c.name))

/-- What a handshake gives and the store that it leaves: the manifests of the cluster that it found,
with its token marked as used. -/
def Serves (r : Request) (now : Instant) (m : Memory) (v : Json.Value) (m' : Memory) : Prop :=
  ∃ token c account spent, r.Finds m token c ∧ check c now = .ok () ∧
    accountToken? m.secrets c.name = some account ∧ spend? c token = some spent ∧
    v = bundle ⟨r.apiUrl, c.name, account, r.image⟩ ∧
    m'.clusters = m.clusters.insert c.name (m.observed c spent.status)

/-- Where the steps of a handshake stop, and the world that they leave. -/
inductive Stops (r : Request) (now : Instant) (w : World) : HandshakeError → World → Prop where
  | missing : r.token.filter (fun t => !t.isEmpty) = none → Stops r now w .missingToken w
  | invalid {token : String} : r.token = some token → token ≠ "" →
    withToken? w.store.clusters.values token = none → Stops r now w .invalidToken w
  | unusable {token : String} {c : Cluster} : r.Finds w.store token c → check c now ≠ .ok () →
    Stops r now w .tokenExpiredOrUsed w
  | noAccount {token : String} {c : Cluster} : r.Finds w.store token c → check c now = .ok () →
    accountToken? w.store.secrets c.name = none → Stops r now w (.noAccountToken c.name) w
  /-- Both writes of the commit conflict. -/
  | conflicts {token account : String} {c : Cluster} : r.Finds w.store token c →
    check c now = .ok () → accountToken? w.store.secrets c.name = some account →
    1 < w.store.conflicts → Stops r now w (.store (.modified clusterKind c.name))
      (World.count { w with store.conflicts := w.store.conflicts - 2 } .invalidationFailure)

/-- What the steps of a handshake give, and the world that they leave. -/
def Gives (r : Request) (now : Instant) (w : World) (v : Json.Value) (w' : World) : Prop :=
  ∃ token c account spent, r.Finds w.store token c ∧ check c now = .ok () ∧
    accountToken? w.store.secrets c.name = some account ∧ spend? c token = some spent ∧
    w.store.conflicts ≤ 1 ∧ v = bundle ⟨r.apiUrl, c.name, account, r.image⟩ ∧
    w' = World.count { w with store := { (w.store.writeObserved c.name c spent.status).2 with
      conflicts := 0 } } (.handshake "served")

variable {r : Request} {now : Instant} {m : Memory} {w w' : World}

theorem Stops.isRefused {error : HandshakeError} (h : r.Stops now w error w') :
    r.IsRefused now w.store error ∧ w.store.HoldsSame w'.store := by
  cases h with
  | missing hmissing => exact ⟨.missing hmissing, Memory.HoldsSame.refl _⟩
  | invalid hpresents _ hnone => exact ⟨.invalid hpresents hnone, Memory.HoldsSame.refl _⟩
  | unusable hfinds hrefused => exact ⟨.unusable hfinds hrefused, Memory.HoldsSame.refl _⟩
  | noAccount hfinds hcheck hnone =>
      exact ⟨.noAccount hfinds hcheck hnone, Memory.HoldsSame.refl _⟩
  | conflicts hfinds hcheck _ hconflicts => exact ⟨.conflicts hfinds hcheck hconflicts, _, rfl⟩

theorem Gives.serves {v : Json.Value} (h : r.Gives now w v w') :
    r.Serves now w.store v w'.store := by
  obtain ⟨token, c, account, spent, hfinds, hcheck, haccount, hspend, -, hv, rfl⟩ := h
  exact ⟨token, c, account, spent, hfinds, hcheck, haccount, hspend, hv, rfl⟩

theorem IsRefused.status {error : HandshakeError} (h : r.IsRefused now m error) :
    400 ≤ (Refusal.handshake error).status := by
  cases h with
  | missing | invalid | unusable => decide
  | noAccount => exact Nat.le_of_ble_eq_true rfl
  | conflicts => exact Nat.le_of_ble_eq_true rfl

theorem Finds.get? {token : String} {c : Cluster} (h : r.Finds m token c) (hs : m.IsSound) :
    m.clusters.get? c.name = some c := by
  obtain ⟨name, hget⟩ := Dict.exists_get?_of_mem_values (exists_of_withToken? h.found).1
  have hname : c.name = name := hs.clusters.named name c hget
  rw [hname]
  exact hget

/-- A token that was checked is unused. -/
theorem Finds.exists_spend? {token : String} {c : Cluster} (h : r.Finds m token c)
    (hcheck : check c now = .ok ()) : ∃ spent, spend? c token = some spent := by
  obtain ⟨-, t, ht, htoken⟩ := exists_of_withToken? h.found
  have husable : t.usableAt now = true := by
    unfold check at hcheck
    rw [ht, Option.any_some] at hcheck
    split at hcheck
    · next h => exact h
    · cases hcheck
  have hvalid : t.valid = true := (Bool.and_eq_true_iff.1 husable).1
  obtain ⟨status, hstatus, hbootstrap⟩ := Option.bind_eq_some_iff.1 ht
  unfold spend?
  simp [hstatus, hbootstrap, htoken, hvalid]

end Handshake.Request

namespace Service

open Handshake

variable {w : World} {client : Client} {r : Handshake.Request} {now : Instant}

/-! ### Commits -/

section Commits

variable {c spent : Cluster} {token : String}

/-- Marking the token of a cluster as it is stored. -/
theorem leads_consume (hget : w.store.clusters.get? c.name = some c)
    (hspend : spend? c token = some spent) :
    Leads w
      (fun error w' => 0 < w.store.conflicts ∧ error = .modified clusterKind c.name ∧
        w' = { w with store.conflicts := w.store.conflicts - 1 })
      (fun result w' => w.store.conflicts = 0 ∧ result = .consumed ∧
        w' = { w with store := (w.store.writeObserved c.name c spent.status).2 })
      (ExceptT.mk (consume client c token)) := by
  obtain ⟨status, t, -, -, -, -, hspent⟩ := Errand.exists_of_spend? hspend
  have hname : spent.name = c.name := by rw [hspent]; rfl
  have hrevision : spent.metadata.revision = c.metadata.revision := by rw [hspent]
  have hanswer := Memory.answer_updateClusterStatus_current (hname ▸ hget) hrevision
  rw [hname] at hanswer
  have hrun : w.run (consume client c token) =
      ((w.store.answer (.updateClusterStatus spent)).1.map (fun _ => Commit.consumed),
        w.afterCall (.updateClusterStatus spent)) := by
    unfold consume
    rw [hspend]
    rfl
  unfold Leads
  rw [ExceptT.run_mk, hrun]
  unfold World.afterCall
  rw [hanswer]
  by_cases hconflicts : 0 < w.store.conflicts
  · rw [if_pos hconflicts]
    exact ⟨hconflicts, rfl, rfl⟩
  · rw [if_neg hconflicts]
    exact ⟨Nat.eq_zero_of_not_pos hconflicts, rfl, rfl⟩

/-- A commit marks the token, at the second attempt if not at the first. -/
theorem leads_commit (hget : w.store.clusters.get? c.name = some c)
    (hspend : spend? c token = some spent) :
    Leads w
      (fun error w' => 1 < w.store.conflicts ∧ error = .modified clusterKind c.name ∧
        w' = { w with store.conflicts := w.store.conflicts - 2 })
      (fun result w' => w.store.conflicts ≤ 1 ∧ result = .consumed ∧
        w' = { w with store := { (w.store.writeObserved c.name c spent.status).2 with
          conflicts := 0 } })
      (ExceptT.mk (commit client c token)) := by
  unfold commit
  refine leads_retryOnce ((leads_consume hget hspend).mono ?_ ?_)
  · rintro error w' ⟨hfirst, rfl, hw⟩
    have hconflict : (StoreError.modified clusterKind c.name).isConflict = true := rfl
    rw [if_pos hconflict, if_neg Nat.one_ne_zero]
    -- read again, the cluster is the same
    have hget' : w'.store.clusters.get? c.name = some c := by rw [hw]; exact hget
    have hanswer : w'.store.answer (.getCluster c.name) = (.ok c, w'.store) := by
      simp only [Memory.answer, hget']
      rfl
    refine leads_call_bind (c := .getCluster c.name) ?_
    unfold World.afterCall
    rw [hanswer]
    refine (leads_consume hget' hspend).mono ?_ ?_
    · rintro error w'' ⟨hsecond, rfl, rfl⟩
      subst hw
      dsimp only at hsecond
      exact ⟨by omega, rfl, rfl⟩
    · rintro result w'' ⟨hsecond, rfl, rfl⟩
      subst hw
      dsimp only at hsecond
      exact ⟨by omega, rfl, by rw [← hsecond]; rfl⟩
  · rintro result w' ⟨hfirst, rfl, rfl⟩
    exact ⟨by omega, rfl, by rw [← hfirst]; rfl⟩

end Commits

/-! ### Handshakes -/

section Steps

variable {token : String}

theorem leads_find (hpresents : r.token = some token) (hnonempty : token ≠ "") :
    Leads w (r.Stops now w) (fun c w' => r.Finds w.store token c ∧ w' = w) (find client token) := by
  unfold find
  refine Leads.bind (M := fun clusters w' => clusters = w.store.clusters.values ∧ w' = w)
    (leads_ask_handshake (c := .listClusters none) (fun _ herror => by cases herror) ?_) ?_
  · intro clusters hclusters
    cases hclusters
    exact ⟨List.filter_eq_self.2 (fun _ _ => rfl), rfl⟩
  rintro clusters w' ⟨rfl, rfl⟩
  cases hfound : withToken? w'.store.clusters.values token with
  | none => exact leads_throw (.invalid hpresents hnonempty hfound)
  | some c => exact leads_pure ⟨⟨hpresents, hnonempty, hfound⟩, rfl⟩

theorem leads_check {c : Cluster} (hfinds : r.Finds w.store token c) :
    Leads w (r.Stops now w) (fun _ w' => check c now = .ok () ∧ w' = w)
      (liftM (check c now) : Steps Unit) := by
  refine leads_except ?_ (fun _ hcheck => ⟨hcheck, rfl⟩)
  intro error herror
  have hrefused : check c now ≠ .ok () := by
    rw [herror]
    exact fun h => by cases h
  unfold check at herror
  split at herror <;> cases herror
  exact .unusable hfinds hrefused

/-- How the steps of a handshake end. -/
theorem leads_steps (hs : w.store.IsSound) (client : Client) (r : Handshake.Request)
    (now : Instant) : Leads w (r.Stops now w) (r.Gives now w) (steps client r now) := by
  unfold steps
  split
  · next token htoken =>
      obtain ⟨hpresents, hnonempty⟩ := Option.filter_eq_some_iff.1 htoken
      have hnonempty : token ≠ "" := by simpa using hnonempty
      refine Leads.bind (leads_find hpresents hnonempty) ?_
      rintro c w' ⟨hfinds, rfl⟩
      refine Leads.bind (leads_check hfinds) ?_
      rintro _ w'' ⟨hcheck, rfl⟩
      refine Leads.bind (M := fun secrets w' => secrets = w''.store.secrets ∧ w' = w'')
        (leads_ask_handshake (c := .listSecrets) (fun _ herror => by cases herror) ?_) ?_
      · intro secrets hsecrets
        cases hsecrets
        exact ⟨rfl, rfl⟩
      rintro secrets w' ⟨rfl, rfl⟩
      cases haccount : accountToken? w'.store.secrets c.name with
      | none => exact leads_throw (.noAccount hfinds hcheck haccount)
      | some account =>
          obtain ⟨spent, hspend⟩ := hfinds.exists_spend? hcheck
          refine Leads.bind (leads_result (leads_commit (hfinds.get? hs) hspend)) ?_
          rintro result w'' ⟨herror, hok⟩
          cases result with
          | error error =>
              obtain ⟨hconflicts, rfl, rfl⟩ := herror error rfl
              refine Leads.bind (leads_lift (D := fun _ w₁ => w₁ = _) rfl) ?_
              rintro _ w₁ rfl
              exact leads_throw (.conflicts hfinds hcheck haccount hconflicts)
          | ok outcome =>
              obtain ⟨hconflicts, rfl, rfl⟩ := hok outcome rfl
              refine Leads.bind (leads_lift (D := fun _ w₁ => w₁ = _) rfl) ?_
              rintro _ w₁ rfl
              exact leads_pure
                ⟨token, c, account, spent, hfinds, hcheck, haccount, hspend, hconflicts, rfl, rfl⟩
  · next hmissing =>
      exact leads_throw (.missing (Option.eq_none_iff_forall_ne_some.2 hmissing))

/-- How a handshake ends that has the store to itself; how it was refused is counted. -/
theorem run_handshake (hs : w.store.IsSound) (client : Client) (r : Handshake.Request)
    (now : Instant) :
    (∃ error w', r.Stops now w error w' ∧
      w.run (Handshake.run client r now) = (.error error, w'.count (.handshake error.outcome))) ∨
    ∃ v w', r.Gives now w v w' ∧ w.run (Handshake.run client r now) = (.ok v, w') := by
  have hsteps := leads_steps hs client r now
  unfold Handshake.run
  unfold Leads at hsteps
  rw [World.run_bind]
  generalize w.run (steps client r now).run = ended at hsteps
  obtain ⟨result, w'⟩ := ended
  cases result with
  | error error => exact Or.inl ⟨error, w', hsteps, rfl⟩
  | ok v => exact Or.inr ⟨v, w', hsteps, rfl⟩

theorem leads_handshake (hs : w.store.IsSound) (client : Client) (r : Handshake.Request)
    (now : Instant) :
    Leads w (fun error w' => r.IsRefused now w.store error ∧ w.store.HoldsSame w'.store)
      (fun v w' => r.Serves now w.store v w'.store) (ExceptT.mk (Handshake.run client r now)) := by
  unfold Leads
  rw [ExceptT.run_mk]
  rcases run_handshake hs client r now with ⟨error, w', hstops, hrun⟩ | ⟨v, w', hgives, hrun⟩
  · rw [hrun]
    exact hstops.isRefused
  · rw [hrun]
    exact hgives.serves

end Steps

/-! ### Requests for manifests -/

/-- The handshake that a request asks for. -/
def handshakeOf (s : Setting) (r : Http.Request) : Handshake.Request :=
  ⟨presentedToken r.query, baseUrl r, s.config.image⟩

/-- How a request for manifests ends: there is no client for it, or its handshake decides. -/
inductive EndsInstall (s : Setting) (r : Http.Request) (m : Memory) :
    Except Refusal Response → Memory → Prop where
  | noClient {m' : Memory} (error : ClientError) : m.HoldsSame m' →
    EndsInstall s r m (.error (.client error)) m'
  | refused {m' : Memory} {error : HandshakeError} : m.HoldsSame m' →
    (handshakeOf s r).IsRefused s.now m error → EndsInstall s r m (.error (.handshake error)) m'
  | served {m' : Memory} {v : Json.Value} : (handshakeOf s r).Serves s.now m v m' →
    EndsInstall s r m (.ok (.json 200 v)) m'

theorem leads_install (hs : w.store.IsSound) (s : Setting) (r : Http.Request) :
    Leads w (fun e w' => EndsInstall s r w.store (.error e) w'.store)
      (fun response w' => EndsInstall s r w.store (.ok response) w'.store)
      (serveAnyone s r .install) := by
  unfold serveAnyone
  refine Leads.bind (M := fun _ w' => w'.store = w.store)
    (leads_lift (Workshop.store_ownClient w)) ?_
  intro built w' hstore
  refine Leads.bind (M := fun _ w'' => w'' = w') (leads_mapError ?_ (fun _ _ => rfl)) ?_
  · intro error _
    exact .noClient error (hstore ▸ Memory.HoldsSame.refl _)
  rintro client w'' rfl
  rw [← hstore] at hs ⊢
  refine Leads.bind (leads_result (leads_handshake hs client (handshakeOf s r) s.now)) ?_
  rintro result w₁ ⟨herror, hok⟩
  refine Leads.bind (M := fun v w₂ => result = .ok v ∧ w₂ = w₁) (leads_mapError ?_ ?_) ?_
  · intro error hresult
    obtain ⟨hrefused, hsame⟩ := herror error hresult
    exact .refused hsame hrefused
  · intro v hresult
    exact ⟨hresult, rfl⟩
  rintro v w₂ ⟨hresult, rfl⟩
  exact leads_pure (.served (hok v hresult))

/-- A request for manifests is served for anyone, whose token the handshake checks. -/
theorem authenticate_install (s : Setting) {r : Http.Request} (hpath : r.path = Credential.installPath)
    (hmethod : Route.install.operation? r.method = some .install) :
    authenticate s r (Route.of? r.path) = serveAnyone s r .install := by
  have haccess : Credential.Access.of r.path ≠ .caller := by
    rw [hpath]
    decide
  have hroute : Route.of? r.path = some .install := by
    rw [hpath]
    decide
  rw [authenticate_anyone s haccess, hroute]
  unfold serve
  dsimp only
  rw [hmethod]

/-- The response to a request for manifests, and the store that it leaves. -/
theorem exists_respond_install (hs : w.store.IsSound) (s : Setting) {r : Http.Request}
    (hpath : r.path = Credential.installPath)
    (hmethod : Route.install.operation? r.method = some .install) :
    ∃ result, EndsInstall s r w.store result (w.run (respond s r)).2.store ∧
      (w.run (respond s r)).1 = finish r (Route.of? r.path) (responseOf result) := by
  have hends := Leads.response
    (D := fun response w' => ∃ result, EndsInstall s r w.store result w'.store ∧
      response = responseOf result)
    ((leads_install hs s r).mono (fun e _ h => ⟨.error e, h, rfl⟩) (fun a _ h => ⟨.ok a, h, rfl⟩))
  rw [← authenticate_install s hpath hmethod] at hends
  obtain ⟨result, hresult, hresponse⟩ := hends
  unfold respond
  dsimp only
  rw [World.run_bind]
  exact ⟨result, hresult, congrArg (finish r (Route.of? r.path)) hresponse⟩

end Service
end Fleet

import Fleet.Proofs.Service.Handshake
import Fleet.Proofs.Store.Revisions

/-! # A handshake that is not disturbed

A cluster fetches its manifests with its bootstrap token, and nobody else works on the store
meanwhile.  Whether it gets them is then settled by the store as it is: by the first cluster that
holds the token, by the secrets of its account, and by the conflicts to come (`Admits`); and if it
does not, by the first thing that is missing (`FailsFor`).  Of all that is stored only the token of
this one cluster changes, and only if the manifests are given (`handshake_undisturbed`). -/

namespace Fleet

open Resource Store Service

namespace Handshake

/-! ### Whom a token leads to -/

/-- The cluster has a bootstrap token that reads so. -/
def Holds (c : Cluster) (token : String) : Prop :=
  ∃ t, c.bootstrapToken? = some t ∧ t.token = token

/-- The first cluster with a bootstrap token, in the order of names. -/
structure IsFirstHolder (m : Memory) (token : String) (c : Cluster) : Prop where
  stored : m.clusters.get? c.name = some c
  holds : Holds c token
  first : ∀ name c', m.clusters.get? name = some c' → Holds c' token → c.name ≤ name

/-- The bootstrap token of the cluster is unused and has not expired. -/
def MayFetch (c : Cluster) (now : Instant) : Prop :=
  ∃ t, c.bootstrapToken? = some t ∧ t.valid = true ∧ now.before t.validUntil = true

/-- There is a secret with a token of the account. -/
def HasAccount (m : Memory) (account : String) : Prop :=
  ∃ s ∈ m.secrets, (tokenIn? s account).isSome

theorem holds_iff {c : Cluster} {token : String} :
    c.bootstrapToken?.any (fun t => t.token == token) = true ↔ Holds c token := by
  rw [Option.any_eq_true]
  exact exists_congr (fun t => and_congr_right (fun _ => beq_iff_eq))

theorem isFirstHolder_of_withToken? {m : Memory} (hs : m.IsSound) {token : String} {c : Cluster}
    (h : withToken? m.clusters.values token = some c) : IsFirstHolder m token c := by
  obtain ⟨name, hget, hfirst⟩ := Dict.first_of_find?_values h
  have hname : c.name = name := hs.clusters.named name c hget
  subst hname
  exact ⟨hget, (exists_of_withToken? h).2, fun name c' hget' hholds =>
    hfirst name c' hget' (holds_iff.2 hholds)⟩

/-- There is only one that is the first. -/
theorem IsFirstHolder.unique {m : Memory} {token : String} {c c' : Cluster}
    (h : IsFirstHolder m token c) (h' : IsFirstHolder m token c') : c = c' := by
  have hname : c.name = c'.name :=
    Std.le_antisymm (h.first _ _ h'.stored h'.holds) (h'.first _ _ h.stored h.holds)
  have hstored := h.stored
  rw [hname, h'.stored] at hstored
  exact (Option.some.inj hstored).symm

theorem withToken?_eq_none_iff {m : Memory} {token : String} :
    withToken? m.clusters.values token = none ↔
      ∀ name c, m.clusters.get? name = some c → ¬ Holds c token := by
  unfold withToken?
  rw [List.find?_eq_none]
  constructor
  · intro h name c hget hholds
    have hmem : c ∈ m.clusters.values := List.mem_map.2 ⟨_, Dict.get?_eq_some_iff.1 hget, rfl⟩
    exact h c hmem (holds_iff.2 hholds)
  · intro h c hmem hholds
    obtain ⟨name, hget⟩ := Dict.exists_get?_of_mem_values hmem
    exact h name c hget (holds_iff.1 hholds)

theorem check_eq_ok_iff {c : Cluster} {now : Instant} :
    check c now = .ok () ↔ MayFetch c now := by
  unfold check MayFetch BootstrapToken.usableAt
  cases c.bootstrapToken? with
  | none => simp
  | some t =>
      rw [Option.any_some]
      split
      · next h => simpa [Bool.and_eq_true] using h
      · next h => simpa [Bool.and_eq_true] using h

theorem oldest_eq_none_iff {l : List (Metadata × String)} : oldest l = none ↔ l = [] := by
  cases l with
  | nil => exact ⟨fun _ => rfl, fun _ => rfl⟩
  | cons a rest =>
      rw [oldest]
      split
      · simp
      · split <;> simp

theorem isSome_accountToken?_iff {m : Memory} {account : String} :
    (accountToken? m.secrets account).isSome ↔ HasAccount m account := by
  unfold accountToken? HasAccount
  rw [Option.isSome_map, Option.isSome_iff_ne_none, Ne, oldest_eq_none_iff,
    List.filterMap_eq_nil_iff]
  simp [Option.isSome_iff_ne_none]

/-! ### How it ends -/

/-- The handshake presents a token, and the cluster is the first that holds it. -/
structure Request.Reaches (r : Request) (m : Memory) (token : String) (c : Cluster) : Prop where
  presents : r.token = some token
  nonempty : token ≠ ""
  holder : IsFirstHolder m token c

/-- What has to be there for a handshake to be given the manifests of a cluster. -/
structure Request.Admits (r : Request) (now : Instant) (m : Memory) (c : Cluster) : Prop where
  reaches : ∃ token, r.Reaches m token c
  mayFetch : MayFetch c now
  account : HasAccount m c.name
  attempts : m.conflicts ≤ 1

/-- The first thing that is missing, and the error that a handshake fails with for lack of it. -/
inductive Request.FailsFor (r : Request) (now : Instant) (m : Memory) : HandshakeError → Prop where
  | missing : (∀ token, r.token = some token → token = "") → FailsFor r now m .missingToken
  | invalid {token : String} : r.token = some token → token ≠ "" →
    (∀ name c, m.clusters.get? name = some c → ¬ Holds c token) → FailsFor r now m .invalidToken
  | unusable {token : String} {c : Cluster} : r.Reaches m token c → ¬ MayFetch c now →
    FailsFor r now m .tokenExpiredOrUsed
  | noAccount {token : String} {c : Cluster} : r.Reaches m token c → MayFetch c now →
    ¬ HasAccount m c.name → FailsFor r now m (.noAccountToken c.name)
  /-- The write that marks the token conflicts, and so does the second attempt at it. -/
  | conflicts {token : String} {c : Cluster} : r.Reaches m token c → MayFetch c now →
    HasAccount m c.name → 1 < m.conflicts →
    FailsFor r now m (.store (.modified clusterKind c.name))

theorem Request.Reaches.unique {r : Request} {m : Memory} {token token' : String} {c c' : Cluster}
    (h : r.Reaches m token c) (h' : r.Reaches m token' c') : c = c' := by
  have htoken : token = token' := Option.some.inj (h.presents.symm.trans h'.presents)
  subst htoken
  exact h.holder.unique h'.holder

theorem Request.FailsFor.unique {r : Request} {now : Instant} {m : Memory} {e e' : HandshakeError}
    (h : r.FailsFor now m e) (h' : r.FailsFor now m e') : e = e' := by
  -- each reason but the first says that what the earlier ones miss is there, so no two meet
  cases h <;> cases h' <;> grind [Request.Reaches, Request.Reaches.unique, IsFirstHolder]

/-- The cluster with its bootstrap token marked as used, at a revision. -/
def used (c : Cluster) (revision : Nat) : Cluster :=
  { c with
    status := c.status.map (fun s =>
      { s with bootstrapToken := s.bootstrapToken.map (fun t => { t with valid := false }) })
    metadata.revision := some (toString revision) }

/-- What the end of a handshake is counted as. -/
def outcome {α : Type} : Except HandshakeError α → String
  | .ok _ => "served"
  | .error e => e.outcome

/-- Whether the token could not be marked as used. -/
def isCommitFailure {α : Type} : Except HandshakeError α → Bool
  | .error (.store _) => true
  | _ => false

/-- What a handshake comes to that has the store to itself: its result, and the world that it
leaves. -/
structure Request.EndsAlone (r : Request) (now : Instant) (w : World)
    (result : Except HandshakeError Json.Value) (w' : World) : Prop where
  given_iff : (∃ v, result = .ok v) ↔ ∃ c, r.Admits now w.store c
  /-- The manifests are those of the cluster that the token leads to, with the token of its account;
  and the bootstrap token of this cluster is all that changes in the store. -/
  given : ∀ c, r.Admits now w.store c →
    (∃ account, accountToken? w.store.secrets c.name = some account ∧
      result = .ok (bundle ⟨r.apiUrl, c.name, account, r.image⟩)) ∧
    w'.store = { w.store with
      clusters := w.store.clusters.insert c.name (used c (w.store.revision + 1))
      revision := w.store.revision + 1
      conflicts := 0 }
  /-- The revision that is given out is a new one. -/
  new : ∀ kind name d, w.store.metadata? kind name = some d →
    d.revision ≠ some (toString (w.store.revision + 1))
  failed_iff : ∀ e, result = .error e ↔ r.FailsFor now w.store e
  unchanged : ∀ e, result = .error e → w.store.HoldsSame w'.store
  /-- How it ended is counted once, and a commit that failed besides. -/
  counted : w' = { w with
    store := w'.store
    counters := { w.counters with
      handshakes := w.counters.handshakes.insert (outcome result)
        ((w.counters.handshakes.get? (outcome result)).getD 0 + 1)
      invalidationFailures := w.counters.invalidationFailures + (isCommitFailure result).toNat } }
  served_iff : outcome result = "served" ↔ ∃ v, result = .ok v

/-! ### Steps -/

section Ends

variable {r : Request} {now : Instant} {w w' : World}

theorem Request.Finds.reaches (hs : w.store.IsSound) {token : String} {c : Cluster}
    (h : r.Finds w.store token c) : r.Reaches w.store token c :=
  ⟨h.presents, h.nonempty, isFirstHolder_of_withToken? hs h.found⟩

theorem Request.Stops.failsFor (hs : w.store.IsSound) {e : HandshakeError}
    (h : r.Stops now w e w') : r.FailsFor now w.store e := by
  cases h with
  | missing hnone =>
      refine .missing (fun token htoken => ?_)
      rw [htoken, Option.filter_eq_none_iff] at hnone
      simpa using hnone token rfl
  | invalid hpresents hnonempty hnone =>
      exact .invalid hpresents hnonempty (withToken?_eq_none_iff.1 hnone)
  | unusable hfinds hrefused =>
      exact .unusable (hfinds.reaches hs) (fun h => hrefused (check_eq_ok_iff.2 h))
  | noAccount hfinds hcheck hnone =>
      refine .noAccount (hfinds.reaches hs) (check_eq_ok_iff.1 hcheck) (fun haccount => ?_)
      rw [← isSome_accountToken?_iff, hnone] at haccount
      cases haccount
  | conflicts hfinds hcheck haccount hconflicts =>
      exact .conflicts (hfinds.reaches hs) (check_eq_ok_iff.1 hcheck)
        (isSome_accountToken?_iff.1 (Option.isSome_of_eq_some haccount)) hconflicts

theorem observed_spend? {m : Memory} {c spent : Cluster} {token : String}
    (h : spend? c token = some spent) : m.observed c spent.status = used c (m.revision + 1) := by
  obtain ⟨status, t, hstatus, htoken, -, -, rfl⟩ := Errand.exists_of_spend? h
  unfold Memory.observed used
  rw [hstatus]
  dsimp only [Option.map]
  rw [htoken]

theorem Request.Gives.admits (hs : w.store.IsSound) {v : Json.Value} (h : r.Gives now w v w') :
    ∃ c account, r.Admits now w.store c ∧ accountToken? w.store.secrets c.name = some account ∧
      v = bundle ⟨r.apiUrl, c.name, account, r.image⟩ ∧
      w' = World.count { w with store := { w.store with
        clusters := w.store.clusters.insert c.name (used c (w.store.revision + 1))
        revision := w.store.revision + 1
        conflicts := 0 } } (.handshake "served") := by
  obtain ⟨token, c, account, spent, hfinds, hcheck, haccount, hspend, hconflicts, hv, rfl⟩ := h
  have hadmits : r.Admits now w.store c := ⟨⟨token, hfinds.reaches hs⟩, check_eq_ok_iff.1 hcheck,
    isSome_accountToken?_iff.1 (Option.isSome_of_eq_some haccount), hconflicts⟩
  refine ⟨c, account, hadmits, haccount, hv, ?_⟩
  rw [← observed_spend? hspend]
  rfl

theorem Request.FailsFor.not_admits {e : HandshakeError} {c : Cluster}
    (h : r.FailsFor now w.store e) : ¬ r.Admits now w.store c := by
  rintro ⟨⟨token, hreaches⟩, hmay, haccount, hattempts⟩
  cases h with
  | missing hmissing => exact hreaches.nonempty (hmissing token hreaches.presents)
  | invalid hpresents _ hnone =>
      rw [hreaches.presents] at hpresents
      cases hpresents
      exact hnone _ _ hreaches.holder.stored hreaches.holder.holds
  | unusable hreaches' hnot => exact hnot (hreaches'.unique hreaches ▸ hmay)
  | noAccount hreaches' _ hnot => exact hnot (hreaches'.unique hreaches ▸ haccount)
  | conflicts _ _ _ hconflicts => omega

theorem Request.Admits.unique {c c' : Cluster} (h : r.Admits now w.store c)
    (h' : r.Admits now w.store c') : c = c' := by
  obtain ⟨token, hreaches⟩ := h.reaches
  obtain ⟨token', hreaches'⟩ := h'.reaches
  exact hreaches.unique hreaches'

theorem outcome_ne_served (e : HandshakeError) : e.outcome ≠ "served" := by
  cases e with
  | missingToken | invalidToken | tokenExpiredOrUsed => decide
  | noAccountToken => exact (by decide : "no_service_account_token" ≠ "served")
  | store => exact (by decide : "error" ≠ "served")

theorem revision_ne_next (hs : w.store.IsSound) (kind : Kind) (name : String) (d : Metadata)
    (h : w.store.metadata? kind name = some d) :
    d.revision ≠ some (toString (w.store.revision + 1)) := by
  cases kind with
  | tenant =>
      obtain ⟨t, hget, rfl⟩ := Option.map_eq_some_iff.1 h
      exact (hs.tenants.issued name t hget).ne_next
  | cluster =>
      obtain ⟨c, hget, rfl⟩ := Option.map_eq_some_iff.1 h
      exact (hs.clusters.issued name c hget).ne_next

/-- A handshake that stopped. -/
theorem endsAlone_of_stops (hs : w.store.IsSound) {e : HandshakeError} (h : r.Stops now w e w') :
    r.EndsAlone now w (.error e) (w'.count (.handshake e.outcome)) := by
  have hfails := h.failsFor hs
  have hnot : ¬ ∃ v : Json.Value, (.error e : Except HandshakeError Json.Value) = .ok v := by
    rintro ⟨v, hv⟩
    cases hv
  refine ⟨?_, fun c hc => absurd hc hfails.not_admits, revision_ne_next hs, ?_,
    fun _ _ => h.isRefused.2, ?_, ?_⟩
  · exact ⟨fun hv => absurd hv hnot, fun ⟨c, hc⟩ => absurd hc hfails.not_admits⟩
  · intro e'
    rw [Except.error.injEq]
    exact ⟨fun heq => heq ▸ hfails, fun hfails' => hfails.unique hfails'⟩
  · cases h <;> rfl
  · exact ⟨fun heq => absurd heq (outcome_ne_served e), fun hv => absurd hv hnot⟩

/-- A handshake that gave the manifests. -/
theorem endsAlone_of_gives (hs : w.store.IsSound) {v : Json.Value} (h : r.Gives now w v w') :
    r.EndsAlone now w (.ok v) w' := by
  obtain ⟨c, account, hadmits, haccount, rfl, rfl⟩ := h.admits hs
  have hok : ∀ e : HandshakeError,
      (.ok (bundle ⟨r.apiUrl, c.name, account, r.image⟩) : Except HandshakeError Json.Value) ≠
        .error e := by
    intro e heq
    cases heq
  refine ⟨⟨fun _ => ⟨c, hadmits⟩, fun _ => ⟨_, rfl⟩⟩, ?_, revision_ne_next hs, ?_,
    fun e heq => absurd heq (hok e), rfl, ⟨fun _ => ⟨_, rfl⟩, fun _ => rfl⟩⟩
  · intro c' hadmits'
    cases hadmits.unique hadmits'
    exact ⟨⟨account, haccount, rfl⟩, rfl⟩
  · intro e
    exact ⟨fun heq => absurd heq (hok e), fun hfails => absurd hadmits hfails.not_admits⟩

end Ends
end Handshake

/-- A handshake that has the store to itself gives manifests if and only if it presents a token, the
first cluster that holds this token may still fetch them, its account has a token, and no more than
one conflict is to come.  It gives those of this cluster, with the token of its account, and nothing
else of the store changes but that the bootstrap token is marked as used, at a new revision.
Otherwise it fails for the first thing that is missing, and nothing changes.  Its end is counted
once, and a commit that failed is counted as such. -/
theorem handshake_undisturbed {w : World} (hbuilt : w.store.Built) (client : Client)
    (r : Handshake.Request) (now : Instant) :
    let ended := w.run (Handshake.run client r now)
    r.EndsAlone now w ended.1 ended.2 := by
  rcases run_handshake hbuilt.isSound client r now with ⟨e, w', hstops, hrun⟩ | ⟨v, w', hgives, hrun⟩
  · rw [hrun]
    exact Handshake.endsAlone_of_stops hbuilt.isSound hstops
  · rw [hrun]
    exact Handshake.endsAlone_of_gives hbuilt.isSound hgives

/-! #### A handshake whose first write conflicts -/

namespace Service.Onboarding

/-- A cluster with an unused token, the token of its account, and a conflict to come. -/
def store : Memory :=
  { (Memory.writeCluster { ns := "fleet" } {
    metadata := { name := some "c-1" }
    status := some { bootstrapToken := some ⟨"abc", true, ⟨4102444800, 0⟩⟩ } }).2.insertSecret {
      data := some (Dict.empty.insert "token" [120])
      metadata := { annotations := some (Dict.empty.insert Handshake.accountAnnotation "c-1") }
      type := some Handshake.tokenSecretType } with conflicts := 1 }

def world : World := { World.empty "fleet" 1 with store := store }

def request : Handshake.Request := ⟨some "abc", "http://localhost", "agent"⟩

/-- How the handshake ends, which a second one follows. -/
def ended : Except Handshake.HandshakeError Json.Value × World :=
  world.run (Handshake.run ⟨none, 0⟩ request ⟨0, 0⟩)

theorem handshake_undisturbed_onboarding :
    store.Built ∧ ended.1.isOk = true ∧ request.EndsAlone ⟨0, 0⟩ world ended.1 ended.2 ∧
      (ended.2.run (Handshake.run ⟨none, 0⟩ request ⟨0, 0⟩)).1.isOk = false := by
  have hbuilt : store.Built := .conflicts 1 (.insertSecret _ (.writeCluster _ (.empty "fleet")))
  exact ⟨hbuilt, by decide +kernel, handshake_undisturbed hbuilt ⟨none, 0⟩ request ⟨0, 0⟩,
    by decide +kernel⟩

end Service.Onboarding
end Fleet

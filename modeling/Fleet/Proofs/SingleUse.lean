import Fleet.Proofs.Service.Workshop

/-! # A bootstrap token is used once

Handshakes and other requests are interleaved in any order on a store in memory.  No step makes a
bootstrap token usable that was not (`ClusterStep.keepsToken`), so a token is marked as used once at
most, and only the handshake that marked it gives the manifests of the cluster.

Main statement: `single_use`. -/

namespace Fleet

open Resource Store Service

variable {ι : Type}

namespace Service

/-! ### Tokens in a store -/

/-- The bootstrap token of a stored cluster. -/
def token? (d : Dict Cluster) (name : String) : Option BootstrapToken :=
  (d.get? name).bind (·.bootstrapToken?)

/-- A stored cluster has a token that is not used. -/
def HoldsUnused (m : Memory) (name : String) : Prop :=
  ∃ t, token? m.clusters name = some t ∧ t.valid = true

/-- The entry is a write of a party that marks the stored token of a cluster as used. -/
def Entry.Spends (entry : Entry ι) (i : ι) (name token : String) : Prop :=
  ∃ c x t, entry.Calls i (.updateClusterStatus c) (.ok x) ∧ t.token = token ∧ t.valid = true ∧
    token? entry.before.clusters name = some t ∧
    token? entry.after.clusters name = some { t with valid := false }

theorem token?_insert (d : Dict Cluster) (key : String) (c : Cluster) (name : String) :
    token? (d.insert key c) name = if key = name then c.bootstrapToken? else token? d name := by
  unfold token?
  rw [Dict.get?_insert]
  split <;> rfl

theorem token?_erase (d : Dict Cluster) (key name : String) :
    token? (d.erase key) name = if key = name then none else token? d name := by
  unfold token?
  rw [Dict.get?_erase]
  split <;> rfl

theorem token?_of_get? {d : Dict Cluster} {name : String} {c : Cluster}
    (h : d.get? name = some c) : token? d name = c.bootstrapToken? := by
  unfold token?
  rw [h]
  rfl

/-! ### Steps -/

/-- What a step may do to the token of a cluster: it leaves it alone, or there is no unused token
afterwards. -/
def KeepsToken (m m' : Memory) (name : String) : Prop :=
  token? m'.clusters name = token? m.clusters name ∨ ¬ HoldsUnused m' name

theorem KeepsToken.of_eq {m m' : Memory} {name : String} (h : m'.clusters = m.clusters) :
    KeepsToken m m' name := by
  refine Or.inl ?_
  rw [h]

/-- Writing a cluster leaves the tokens of all clusters alone if it does so for the one written, and
so does a write without an unused token. -/
theorem KeepsToken.insert {m m' : Memory} {key name : String} {c : Cluster}
    (h : m'.clusters = m.clusters.insert key c)
    (hc : c.bootstrapToken? = token? m.clusters key ∨
      c.bootstrapToken?.any (fun t => t.valid) = false) : KeepsToken m m' name := by
  have htoken := token?_insert m.clusters key c name
  rw [← h] at htoken
  by_cases hkey : key = name
  · subst hkey
    rw [if_pos rfl] at htoken
    rcases hc with hc | hc
    · exact Or.inl (htoken.trans hc)
    · refine Or.inr ?_
      rintro ⟨t, ht, hvalid⟩
      rw [← htoken, ht, Option.any_some, hvalid] at hc
      cases hc
  · rw [if_neg hkey] at htoken
    exact Or.inl htoken

theorem KeepsToken.erase {m m' : Memory} {key name : String}
    (h : m'.clusters = m.clusters.erase key) : KeepsToken m m' name := by
  have htoken := token?_erase m.clusters key name
  rw [← h] at htoken
  by_cases hkey : key = name
  · rw [if_pos hkey] at htoken
    refine Or.inr ?_
    rintro ⟨t, ht, -⟩
    rw [htoken] at ht
    cases ht
  · rw [if_neg hkey] at htoken
    exact Or.inl htoken

/-- What happens to clusters keeps tokens. -/
theorem ClusterStep.keepsToken {errand : ι → Errand} {m m' : Memory} (h : ClusterStep errand m m')
    (name : String) : KeepsToken m m' name := by
  cases h with
  | same hsame => exact KeepsToken.of_eq hsame
  | created _ _ hwritten => exact KeepsToken.insert hwritten (Or.inr rfl)
  | rewritten _ hget hwritten =>
      exact KeepsToken.insert hwritten (Or.inl (token?_of_get? hget).symm)
  | observed hobserves _ hget hwritten =>
      refine KeepsToken.insert hwritten ?_
      rw [token?_of_get? hget]
      exact hobserves.bootstrapToken?
  | deleted _ herased => exact KeepsToken.erase herased
  | touched hget hwritten =>
      exact KeepsToken.insert hwritten (Or.inl (token?_of_get? hget).symm)

section Steps

variable [DecidableEq ι] {errand : ι → Errand} {start m : Memory} {log : Log ι}

/-- A token that is used or gone stays so. -/
theorem Recorded.not_holdsUnused {later : Log ι} {m' : Memory} {name : String}
    (h : Recorded errand start (later ++ log) m') (hearlier : Recorded errand start log m)
    (hs : start.IsSound) (hm : ¬ HoldsUnused m name) : ¬ HoldsUnused m' name := by
  induction later generalizing m' with
  | nil => exact hearlier.unique h ▸ hm
  | cons entry later ih =>
      cases h with
      | cons hrest hhappens hallows =>
          have hbefore := ih hrest
          have hsteps := (hrest.remembered hs).objectSteps hhappens hallows
          rcases hsteps.2.keepsToken name with hsame | hused
          · unfold HoldsUnused at hbefore ⊢
            rw [hsame]
            exact hbefore
          · exact hused

/-! ### Spending -/

omit [DecidableEq ι] in
theorem Entry.Spends.holdsUnused {entry : Entry ι} {i : ι} {name token : String}
    (h : entry.Spends i name token) : HoldsUnused entry.before name := by
  obtain ⟨c, x, t, -, -, hvalid, hbefore, -⟩ := h
  exact ⟨t, hbefore, hvalid⟩

omit [DecidableEq ι] in
theorem Entry.Spends.not_holdsUnused {entry : Entry ι} {i : ι} {name token : String}
    (h : entry.Spends i name token) : ¬ HoldsUnused entry.after name := by
  obtain ⟨c, x, t, -, -, -, -, hafter⟩ := h
  rintro ⟨t', ht', hvalid⟩
  rw [hafter] at ht'
  cases ht'
  cases hvalid

/-- After a token was marked as used, its cluster has no unused token. -/
theorem Recorded.not_holdsUnused_of_spends (h : Recorded errand start log m) (hs : start.IsSound)
    {entry : Entry ι} (hmem : entry ∈ log) {i : ι} {name token : String}
    (hspends : entry.Spends i name token) : ¬ HoldsUnused m name := by
  obtain ⟨later, earlier, hlog⟩ := List.append_of_mem hmem
  obtain ⟨hbefore, hhappens, hallows⟩ := h.earlier hlog
  exact (hlog ▸ h).not_holdsUnused (hbefore.cons hhappens hallows) hs hspends.not_holdsUnused

/-- One party at most marks the token of a cluster as used. -/
theorem Recorded.spends_unique (h : Recorded errand start log m) (hs : start.IsSound)
    {e₁ e₂ : Entry ι} (h₁ : e₁ ∈ log) (h₂ : e₂ ∈ log) {i j : ι} {name token₁ token₂ : String}
    (hi : e₁.Spends i name token₁) (hj : e₂.Spends j name token₂) : i = j := by
  induction h with
  | nil => cases h₁
  | @cons log entry hrest hhappens hallows ih =>
      rcases List.mem_cons.1 h₁ with rfl | hin₁ <;> rcases List.mem_cons.1 h₂ with rfl | hin₂
      · obtain ⟨c, x, t, ⟨client, hdeed⟩, -⟩ := hi
        obtain ⟨c', x', t', ⟨client', hdeed'⟩, -⟩ := hj
        rw [hdeed] at hdeed'
        cases hdeed'
        rfl
      · exact absurd hi.holdsUnused (hrest.not_holdsUnused_of_spends hs hin₂ hj)
      · exact absurd hj.holdsUnused (hrest.not_holdsUnused_of_spends hs hin₁ hi)
      · exact ih hin₁ hin₂

/-- A handshake that wrote what is observed of a cluster marked its token as used. -/
theorem Recorded.exists_spends (h : Recorded errand start log m) (hs : start.IsSound) {i : ι}
    {r : Handshake.Request} {now : Instant} (herrand : errand i = .handshake r now)
    {name : String} (hobserved : Errand.HasObserved (history i log) name) :
    ∃ token, r.token = some token ∧ ∃ entry ∈ log, entry.Spends i name token := by
  obtain ⟨client, c, x, rfl, hmem⟩ := hobserved
  obtain ⟨entry, hentry, hdeed⟩ := exists_entry_of_mem_history hmem
  obtain ⟨later, earlier, hlog⟩ := List.append_of_mem hentry
  obtain ⟨hbefore, hhappens, hallows⟩ := h.earlier hlog
  have hanswer : entry.before.answer (.updateClusterStatus c) = (.ok x, entry.after) :=
    Entry.Calls.answer ⟨client, hdeed⟩ hhappens
  rcases (hbefore.remembered hs).updateClusterStatus_eq (hallows i _ _ hdeed) with
    ⟨found, -, hobserves, hget, hm⟩ | ⟨e, n, hm⟩
  · rw [herrand] at hobserves
    obtain ⟨token, htoken, hspend⟩ := hobserves
    obtain ⟨status, t, hstatus, ht, htt, hvalid, rfl⟩ := Errand.exists_of_spend? hspend
    obtain ⟨-, hafter⟩ := Prod.mk.inj (hm.symm.trans hanswer)
    refine ⟨token, htoken, entry, hentry, _, x, t, ⟨client, hdeed⟩, htt, hvalid, ?_, ?_⟩
    · rw [token?_of_get? hget]
      unfold Cluster.bootstrapToken?
      rw [hstatus]
      exact ht
    · rw [← hafter]
      exact (token?_insert _ _ _ _).trans (if_pos rfl)
  · cases (Prod.mk.inj (hm.symm.trans hanswer)).1

end Steps

/-! ### Manifests -/

/-- The member of an object. -/
def member? (key : String) : Json.Value → Option Json.Value
  | .object members => Dict.lookupIn key members
  | _ => none

/-- The item of an array. -/
def item? (n : Nat) : Json.Value → Option Json.Value
  | .array items => items[n]?
  | _ => none

/-- The cluster that manifests are for, as the environment of the agent names it. -/
def clusterIn? (v : Json.Value) : Option Json.Value := do
  let deployment ← (member? "items" v).bind (item? 5)
  let pod ← ((member? "spec" deployment).bind (member? "template")).bind (member? "spec")
  let container ← (member? "containers" pod).bind (item? 0)
  ((member? "env" container).bind (item? 1)).bind (member? "value")

/-- The value that a list of members gives last under a name. -/
def lastGiven (key : String) : List (String × Json.Value) → Option Json.Value
  | [] => none
  | (k, v) :: rest => (lastGiven key rest).or (if k = key then some v else none)

theorem lookupIn_foldl_insertIn (key : String) (members l : List (String × Json.Value)) :
    Dict.lookupIn key (members.foldl (fun l m => Dict.insertIn m.1 m.2 l) l) =
      (lastGiven key members).or (Dict.lookupIn key l) := by
  induction members generalizing l with
  | nil => rfl
  | cons m members ih =>
      obtain ⟨k, v⟩ := m
      rw [List.foldl_cons, ih, Dict.lookupIn_insertIn, lastGiven, Option.or_assoc]
      split <;> rfl

theorem member?_ofMembers (key : String) (members : List (String × Json.Value)) :
    member? key (.ofMembers members) = lastGiven key members :=
  (lookupIn_foldl_insertIn key members []).trans (Option.or_none)

theorem clusterIn?_bundle (b : Handshake.BundleSpec) :
    clusterIn? (Handshake.bundle b) = some (.string b.cluster) := by
  simp [clusterIn?, item?, member?_ofMembers, lastGiven, Handshake.bundle, Handshake.manifest,
    Handshake.deploymentManifest, Handshake.environment, Handshake.envEntry]

/-- Manifests are those of one cluster. -/
theorem cluster_eq_of_bundle_eq {b b' : Handshake.BundleSpec}
    (h : Handshake.bundle b = Handshake.bundle b') : b.cluster = b'.cluster := by
  have hcluster := congrArg clusterIn? h
  rw [clusterIn?_bundle, clusterIn?_bundle] at hcluster
  exact Json.Value.string.inj (Option.some.inj hcluster)

/-! ### Result -/

variable [DecidableEq ι]

/-- The manifests that a party ended with. -/
def Workshop.manifests? (w : Workshop ι Outcome) (i : ι) : Option Json.Value :=
  match w.rest i with
  | .done (.manifests (.ok v)) => some v
  | _ => none

/-- A party ended with the manifests of a cluster. -/
def Workshop.Serves (w : Workshop ι Outcome) (i : ι) (name : String) : Prop :=
  ∃ b, w.manifests? i = some (Handshake.bundle b) ∧ b.cluster = name

omit [DecidableEq ι] in
theorem Workshop.rest_of_manifests? {w : Workshop ι Outcome} {i : ι} {v : Json.Value}
    (h : w.manifests? i = some v) : w.rest i = .done (.manifests (.ok v)) := by
  unfold manifests? at h
  split at h
  · next hrest =>
      cases h
      exact hrest
  · cases h

/-- What a run says if tokens are used once. -/
structure Workshop.SingleUse (errand : ι → Errand) (w : Workshop ι Outcome) : Prop where
  /-- At most one party ends with the manifests of a cluster. -/
  once : ∀ i j name, w.Serves i name → w.Serves j name → i = j
  /-- It did so as a handshake whose own write marked as used the token that it presented. -/
  spent : ∀ i name, w.Serves i name → ∃ r now token, errand i = .handshake r now ∧
    r.token = some token ∧ ∃ entry ∈ w.log, entry.Spends i name token
  /-- A token that is used or gone stays so. -/
  stays : ∀ name, ¬ HoldsUnused w.world.store name →
    ∀ moves, ¬ HoldsUnused (w.run moves).world.store name

end Service

/-- Whatever requests run on a store in memory, and however their steps are interleaved, every
bootstrap token is used once. -/
theorem single_use [DecidableEq ι] (world : World) (h : world.store.Built)
    (client : ι → Client) (errand : ι → Errand) (moves : List (Move ι)) :
    ((Workshop.ofErrands world client errand).run moves).SingleUse errand := by
  have hs := h.isSound
  have horderly := Workshop.isOrderly_run_ofErrands hs client errand moves
  generalize hw : (Workshop.ofErrands world client errand).run moves = w at horderly
  have hspent : ∀ i name, w.Serves i name → ∃ r now token, errand i = .handshake r now ∧
      r.token = some token ∧ ∃ entry ∈ w.log, entry.Spends i name token := by
    rintro i name ⟨b, hmanifests, rfl⟩
    have hends := horderly.keeps i
    rw [Workshop.rest_of_manifests? hmanifests, Program.keeps_done] at hends
    obtain ⟨r, now, b', herrand, hbundle, hobserved⟩ := hends
    rw [← cluster_eq_of_bundle_eq hbundle] at hobserved
    obtain ⟨token, htoken, hspends⟩ := horderly.recorded.exists_spends hs herrand hobserved
    exact ⟨r, now, token, herrand, htoken, hspends⟩
  refine ⟨?_, hspent, ?_⟩
  · intro i j name hi hj
    obtain ⟨-, -, token, -, -, e, he, hspends⟩ := hspent i name hi
    obtain ⟨-, -, token', -, -, e', he', hspends'⟩ := hspent j name hj
    exact horderly.recorded.spends_unique hs he he' hspends hspends'
  · intro name hname more
    have hlater := (horderly.run hs more).recorded
    obtain ⟨later, hlog⟩ := w.exists_log_run more
    rw [hlog] at hlater
    exact hlater.not_holdsUnused horderly.recorded hs hname

/-! #### A race for a token -/

namespace Service.Race

/-- A store with a cluster that has an unused token, and the token of its account. -/
def store : Memory :=
  (Memory.writeCluster { ns := "fleet" } {
    metadata := { name := some "c-1" }
    status := some { bootstrapToken := some ⟨"abc", true, ⟨4102444800, 0⟩⟩ } }).2.insertSecret {
      data := some (Dict.empty.insert "token" [120])
      metadata := { annotations := some (Dict.empty.insert Handshake.accountAnnotation "c-1") }
      type := some Handshake.tokenSecretType }

def world : World := { World.empty "fleet" 1 with store := store }

/-- Two parties present the token. -/
def errand (_ : Bool) : Errand := .handshake ⟨some "abc", "http://localhost", "agent"⟩ ⟨0, 0⟩

def client (_ : Bool) : Client := ⟨none, 0⟩

/-- They take turns. -/
def moves : List (Move Bool) := (List.replicate 5 [.act true, .act false]).flatten

/-- The party that begins gets the manifests, and the other one does not. -/
theorem single_use_race : store.Built ∧
    ((Workshop.ofErrands world client errand).run moves).Serves true "c-1" ∧
    ((Workshop.ofErrands world client errand).run moves).SingleUse errand := by
  have hbuilt : store.Built := .insertSecret _ (.writeCluster _ (.empty "fleet"))
  refine ⟨hbuilt, ⟨⟨"http://localhost", "c-1", "x", "agent"⟩, ?_, rfl⟩, ?_⟩
  · decide +kernel
  · exact single_use world hbuilt client errand moves

end Service.Race
end Fleet

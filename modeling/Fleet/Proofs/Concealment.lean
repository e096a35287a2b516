import Fleet.Proofs.Access
import Fleet.Proofs.Rejection
import Fleet.Proofs.Service.Mirror
import Mathlib.Tactic.Choose

/-! # Unusable bootstrap tokens do not show

Two worlds that are the same but for bootstrap tokens of clusters (`World.SameBut`) cannot be told
apart by requests that are answered while none of these tokens can be used, unless for manifests:
they are answered the same, and leave worlds that are again the same but for these tokens.

The second world is the first one with tokens renamed, and a request does in a renamed world what it
does in the world itself (`mirrors_respond`).

Main statement: `unusable_tokens_hidden`. -/

namespace Fleet

open Credential Http Resource Service Store

namespace Service

/-! ### Requests -/

section Requests

variable {π : Renaming}

theorem mirrors_clientFor (token : String) :
    Mirrors π Eq (Work.clientFor token) (Work.clientFor token) := by
  unfold Work.clientFor
  refine Mirrors.bind (mirrors_perform (a := .lookup token) (fun _ _ h => by cases h)) ?_
  rintro (found : Option Client) _ rfl
  cases found with
  | some client => exact mirrors_pure rfl
  | none =>
      refine Mirrors.bind (mirrors_perform (a := .build token) (fun _ _ h => by cases h)) ?_
      rintro (built : Except ClientError Client) _ rfl
      cases built with
      | error e => exact mirrors_pure rfl
      | ok client =>
          refine Mirrors.bind
            (mirrors_perform (a := .remember token client) (fun _ _ h => by cases h)) ?_
          rintro _ _ rfl
          exact mirrors_pure rfl

/-- Errands look at bootstrap tokens when their request is answered. -/
theorem now_of_errand? {s : Setting} {r : Http.Request} {e : Errand} {now : Instant}
    (he : errand? s r = some e) (hnow : e.now? = some now) : now = s.now := by
  obtain ⟨route, -, he⟩ := Option.bind_eq_some_iff.1 he
  obtain ⟨o, -, he⟩ := Option.bind_eq_some_iff.1 he
  cases o with
  | health | metrics => cases he
  | install | listTenants =>
      cases he
      cases hnow <;> rfl
  | getTenant | deleteTenant | listClusters | getCluster | deleteCluster =>
      obtain ⟨_, _, he⟩ := Option.bind_eq_some_iff.1 he
      cases he
      cases hnow <;> rfl
  | createTenant | createCluster =>
      obtain ⟨_, _, he⟩ := Option.bind_eq_some_iff.1 he
      obtain ⟨_, _, he⟩ := Option.bind_eq_some_iff.1 he
      cases he
      cases hnow <;> rfl
  | updateTenant | updateCluster | putCluster | reportCompilation =>
      obtain ⟨_, _, he⟩ := Option.bind_eq_some_iff.1 he
      obtain ⟨_, _, he⟩ := Option.bind_eq_some_iff.1 he
      obtain ⟨_, _, he⟩ := Option.bind_eq_some_iff.1 he
      cases he
      cases hnow <;> rfl

/-- What a caller asks for, but for manifests. -/
theorem mirrors_serve_caller {s : Setting} {r : Http.Request} (h : π.IsIdleAt s.now)
    (hcaller : Access.of r.path = .caller) (client : Client) :
    MirrorsTask π Eq (serve s r (Route.of? r.path) (some client))
      (serve s r (Route.of? r.path) (some client)) := by
  cases he : errand? s r with
  | none =>
      obtain ⟨result, hserve⟩ := exists_serve_eq he hcaller
      rw [hserve]
      exact mirrors_pure (agrees_refl result)
  | some e =>
      rw [serve_of_errand? he hcaller]
      have hwork : Mirrors π Eq (e.work client) (e.work client) :=
        mirrors_work client ((access_of_errand? he).1 hcaller)
          (fun now hnow => (now_of_errand? he hnow).symm ▸ h)
      change Mirrors π _ (e.reply <$> e.work client) (e.reply <$> e.work client)
      rw [map_eq_pure_bind]
      refine hwork.bind ?_
      rintro outcome _ rfl
      exact mirrors_pure (agrees_refl _)

/-- What anyone asks for, but for manifests. -/
theorem mirrors_serve_anyone (s : Setting) {r : Http.Request} (hpath : r.path ≠ installPath) :
    MirrorsTask π Eq (serve s r (Route.of? r.path) none) (serve s r (Route.of? r.path) none) := by
  unfold serve
  cases hroute : Route.of? r.path with
  | none => exact mirrors_task_pure rfl
  | some route =>
      dsimp only
      cases ho : route.operation? r.method with
      | none => exact mirrors_task_pure rfl
      | some o =>
          dsimp only
          rcases serveAnyone_cases s r o with ⟨response, ho'⟩ | ⟨render, ho'⟩ | rfl
          · rw [ho']
            exact mirrors_task_pure rfl
          · unfold MirrorsTask
            rw [ho', map_eq_pure_bind]
            refine Mirrors.bind (mirrors_perform (a := .readCounters) (fun _ _ h => by cases h)) ?_
            rintro counters _ rfl
            exact mirrors_pure (.ok rfl)
          · obtain ⟨rfl, -⟩ := Route.eq_install_of_operation? ho
            exact absurd (Route.path_of_install hroute) hpath

theorem mirrors_respond {s : Setting} {r : Http.Request} (h : π.IsIdleAt s.now)
    (hpath : r.path ≠ installPath) : Mirrors π Eq (respond s r) (respond s r) := by
  have hauthenticate : MirrorsTask π Eq (authenticate s r (Route.of? r.path))
      (authenticate s r (Route.of? r.path)) := by
    by_cases hcaller : Access.of r.path = .caller
    · by_cases htoken : ∃ token, r.Presents token
      · obtain ⟨token, htoken⟩ := htoken
        rw [authenticate_caller s ⟨hcaller, htoken⟩]
        refine (mirrors_lift (mirrors_clientFor token)).bind_eq (fun built => ?_)
        refine (mirrors_of (agrees_refl built)).bind_eq (fun client => ?_)
        exact mirrors_serve_caller h hcaller client
      · rw [authenticate_missing s hcaller (fun token hpresents => htoken ⟨token, hpresents⟩)]
        exact mirrors_throw Refusal.missingCredential
    · rw [authenticate_anyone s hcaller]
      exact mirrors_serve_anyone s hpath
  unfold respond Task.response
  refine Mirrors.bind (F := Eq) (Mirrors.bind hauthenticate ?_) ?_
  · intro result result' hresult
    rw [hresult.eq]
    cases result' <;> exact mirrors_pure rfl
  · rintro response _ rfl
    exact mirrors_pure rfl

end Requests

/-! ### Runs -/

/-- A turn that does not look at renamed tokens: a request that is not for manifests, at a time when
none of them can be used, or a turn that is no request. -/
def Turn.IsBlind (π : Renaming) : Turn → Prop
  | .request s r => r.path ≠ installPath ∧ π.IsIdleAt s.now
  | _ => True

namespace World

/-- What is answered to the requests among some turns, in their order. -/
def answers (w : World) : List Turn → List Response
  | [] => []
  | .request s r :: turns => (w.run (respond s r)).1 :: (w.turn (.request s r)).answers turns
  | t :: turns => (w.turn t).answers turns

variable {π : Renaming}

theorem turn_rename {w : World} (hs : w.store.IsSound) {t : Turn} (ht : t.IsBlind π) :
    (w.rename π).turn t = (w.turn t).rename π := by
  cases t with
  | request s r => exact (mirrors_respond ht.2 ht.1 w hs).2
  | conflicts | outage => rfl

/-- A run in the renamed world is the renamed run. -/
theorem after_rename {turns : List Turn} (hturns : ∀ t ∈ turns, t.IsBlind π) {w : World}
    (hs : w.store.IsSound) :
    (w.rename π).answers turns = w.answers turns ∧
      (w.rename π).after turns = (w.after turns).rename π := by
  -- over the turns: each of them leaves a sound store, and the renamed world of the next one
  induction turns generalizing w with
  | nil => exact ⟨rfl, rfl⟩
  | cons t turns ih =>
      have ht : t.IsBlind π := hturns t List.mem_cons_self
      obtain ⟨hanswers, hafter⟩ :=
        ih (fun t' ht' => hturns t' (List.mem_cons_of_mem t ht')) (isSound_turn hs t)
      rw [← turn_rename hs ht] at hanswers hafter
      refine ⟨?_, hafter⟩
      cases t with
      | request s r =>
          have hresponse : (w.run (respond s r)).1 = ((w.rename π).run (respond s r)).1 :=
            (mirrors_respond ht.2 ht.1 w hs).1
          unfold answers
          rw [hresponse, hanswers]
      | conflicts | outage => exact hanswers

end World
end Service

/-! ### Worlds that are the same but for bootstrap tokens -/

/-- Two clusters are the same but for their bootstrap tokens, which are both among some. -/
def Resource.Cluster.SameBut (hidden : BootstrapToken → Prop) (c c' : Cluster) : Prop :=
  c' = c ∨ ∃ status t t', c.status = some status ∧ status.bootstrapToken = some t ∧
    hidden t ∧ hidden t' ∧
    c' = { c with status := some { status with bootstrapToken := some t' } }

/-- Two worlds are the same but for bootstrap tokens of clusters, which for each cluster are among
some. -/
structure Service.World.SameBut (hidden : String → BootstrapToken → Prop) (w w' : World) : Prop where
  rest : w' = { w with store := { w.store with clusters := w'.store.clusters } }
  clusters : ∀ name, Option.Rel (Cluster.SameBut (hidden name)) (w.store.clusters.get? name)
    (w'.store.clusters.get? name)

namespace Service

section SameBut

variable {hidden : String → BootstrapToken → Prop} {w w' : World}

/-- Two clusters that are the same but for their tokens differ in that these are exchanged. -/
theorem exists_perm_of_sameBut {hidden : BootstrapToken → Prop} {c c' : Cluster}
    (h : c.SameBut hidden c') : ∃ f : Equiv.Perm BootstrapToken,
      (∀ t, f t ≠ t → hidden t) ∧ c' = c.rename (fun _ => f) := by
  rcases h with rfl | ⟨status, t, t', hstatus, htoken, ht, ht', rfl⟩
  · refine ⟨Equiv.refl _, fun t hne => absurd rfl hne, ?_⟩
    exact (Cluster.rename_eq_self (fun _ _ => rfl)).symm
  · refine ⟨Equiv.swap t t', ?_, ?_⟩
    · intro u hne
      by_cases hu : u = t
      · exact hu ▸ ht
      · by_cases hu' : u = t'
        · exact hu' ▸ ht'
        · exact absurd (Equiv.swap_apply_of_ne_of_ne hu hu') hne
    · unfold Cluster.rename ClusterStatus.rename
      rw [hstatus, Option.map_some, htoken, Option.map_some, Equiv.swap_apply_left]

/-- A renaming of every cluster by itself is one of all. -/
theorem exists_renaming_of_sameBut (hs : w.store.IsSound) (h : w.SameBut hidden w') :
    ∃ π : Renaming, (∀ name t, π name t ≠ t → hidden name t) ∧ w' = w.rename π := by
  have hperm : ∀ name, ∃ f : Equiv.Perm BootstrapToken, (∀ t, f t ≠ t → hidden name t) ∧
      w'.store.clusters.get? name =
        (w.store.clusters.get? name).map (Cluster.rename (fun _ => f)) := by
    intro name
    have hcluster := h.clusters name
    revert hcluster
    cases w.store.clusters.get? name with
    | none =>
        intro hcluster
        cases hcluster' : w'.store.clusters.get? name with
        | none => exact ⟨Equiv.refl _, fun t hne => absurd rfl hne, rfl⟩
        | some c' =>
            rw [hcluster'] at hcluster
            cases hcluster
    | some c =>
        intro hcluster
        cases hcluster' : w'.store.clusters.get? name with
        | none =>
            rw [hcluster'] at hcluster
            cases hcluster
        | some c' =>
            rw [hcluster'] at hcluster
            cases hcluster with
            | some hsame =>
                obtain ⟨f, hf, rfl⟩ := exists_perm_of_sameBut hsame
                exact ⟨f, hf, rfl⟩
  choose π hidden_of_ne hget using hperm
  refine ⟨π, hidden_of_ne, ?_⟩
  have hclusters : w'.store.clusters = (w.store.rename π).clusters := by
    refine Dict.ext_get? (fun name => ?_)
    rw [hget, Memory.get?_rename]
    cases hcluster : w.store.clusters.get? name with
    | none => rfl
    | some c =>
        have hname : c.name = name := hs.clusters.named name c hcluster
        unfold Cluster.rename
        rw [Option.map_some, Option.map_some, hname]
  rw [h.rest, hclusters]
  rfl

theorem sameBut_rename {π : Renaming} (hs : w.store.IsSound)
    (h : ∀ name t, π name t ≠ t → hidden name t) : w.SameBut hidden (w.rename π) := by
  refine ⟨rfl, fun name => ?_⟩
  have hget : (w.rename π).store.clusters.get? name =
      (w.store.clusters.get? name).map (Cluster.rename π) := Memory.get?_rename π w.store name
  rw [hget]
  cases hcluster : w.store.clusters.get? name with
  | none => exact .none
  | some c =>
      have hname : c.name = name := hs.clusters.named name c hcluster
      refine .some ?_
      by_cases hself : ∀ t, c.bootstrapToken? = some t → π c.name t = t
      · exact Or.inl (Cluster.rename_eq_self hself)
      · push Not at hself
        obtain ⟨t, htoken, hne⟩ := hself
        obtain ⟨status, hstatus, htoken⟩ := Option.bind_eq_some_iff.1 htoken
        have hne' : π c.name (π c.name t) ≠ π c.name t :=
          fun heq => hne ((π c.name).injective heq)
        refine Or.inr ⟨status, t, π c.name t, hstatus, htoken, hname ▸ h _ _ hne,
          hname ▸ h _ _ hne', ?_⟩
        unfold Cluster.rename ClusterStatus.rename
        rw [hstatus, Option.map_some, htoken, Option.map_some]

end SameBut
end Service

/-! ### Result -/

/-- Two worlds are the same but for bootstrap tokens of clusters, and any requests but those for
manifests are made in both, at times when none of these tokens can be used.  Then all of them are
answered the same, and the worlds that they lead to are again the same but for these tokens. -/
theorem unusable_tokens_hidden {hidden : String → BootstrapToken → Prop} {w w' : World}
    (hbuilt : w.store.Built) (hsame : w.SameBut hidden w') {turns : List Turn}
    (hpath : ∀ s r, .request s r ∈ turns → r.path ≠ installPath)
    (hunusable : ∀ name t, hidden name t → ∀ s r, .request s r ∈ turns → t.usableAt s.now = false) :
    w.answers turns = w'.answers turns ∧ (w.after turns).SameBut hidden (w'.after turns) := by
  have hs := hbuilt.isSound
  obtain ⟨π, hidden_of_ne, rfl⟩ := exists_renaming_of_sameBut hs hsame
  have hblind : ∀ t ∈ turns, t.IsBlind π := by
    intro t ht
    cases t with
    | request s r =>
        exact ⟨hpath s r ht, fun name t hne => hunusable name t (hidden_of_ne name t hne) s r ht⟩
    | conflicts | outage => trivial
  obtain ⟨hanswers, hafter⟩ := World.after_rename hblind hs
  refine ⟨hanswers.symm, ?_⟩
  rw [hafter]
  exact sameBut_rename (isSound_after hs turns) hidden_of_ne

/-! #### A used token and an expired one -/

namespace Service.Concealed

/-- A token that was used. -/
def used : BootstrapToken := ⟨"abc", false, ⟨200, 0⟩⟩

/-- A token that has expired. -/
def expired : BootstrapToken := ⟨"xyz", true, ⟨50, 0⟩⟩

/-- A cluster with a bootstrap token. -/
def cluster (t : BootstrapToken) : Cluster where
  metadata := { name := some "c-1" }
  status := some { bootstrapToken := some t }

/-- A world with that cluster. -/
def world (t : BootstrapToken) : World :=
  { World.empty "fleet" 1 with store := (Memory.writeCluster { ns := "fleet" } (cluster t)).2 }

/-- The tokens of the cluster that may differ. -/
def hidden (name : String) (t : BootstrapToken) : Prop := name = "c-1" ∧ (t = used ∨ t = expired)

def setting : Setting := ⟨{}, ⟨100, 0⟩, fun _ => 0⟩

/-- A client sets a display name and a dynamic fact. -/
def update : Http.Request where
  method := "PATCH"
  path := "/clusters/c-1"
  headers := [("authorization", "Bearer abc")]
  body := Text.encode r#"{"displayName":"One","dynamicFacts":{"ready":true}}"#

/-- A client asks for all clusters. -/
def question : Http.Request where
  method := "GET"
  path := "/clusters"
  headers := [("authorization", "Bearer abc")]

def turns : List Turn := [.request setting update, .request setting question]

/-- The bootstrap token of the cluster. -/
def token? (w : World) : Option BootstrapToken :=
  (w.store.clusters.get? "c-1").bind Cluster.bootstrapToken?

theorem unusable_tokens_hidden_concealed :
    (world used).store.Built ∧ (world used).SameBut hidden (world expired) ∧
    ((world used).answers turns).map (·.status) = [200, 200] ∧
    (world used).answers turns = (world expired).answers turns ∧
    ((world used).after turns).SameBut hidden ((world expired).after turns) ∧
    token? ((world used).after turns) = some used ∧
    token? ((world expired).after turns) = some expired := by
  have hbuilt : (world used).store.Built := .writeCluster _ (.empty "fleet")
  have hsame : (world used).SameBut hidden (world expired) := by
    refine ⟨rfl, fun name => ?_⟩
    by_cases hname : name = "c-1"
    · subst hname
      exact .some (Or.inr ⟨_, used, expired, rfl, rfl, ⟨rfl, Or.inl rfl⟩, ⟨rfl, Or.inr rfl⟩, rfl⟩)
    · have hnone : ∀ t, (world t).store.clusters.get? name = none := by
        intro t
        exact (Dict.get?_insert _ _ _ _).trans (if_neg (Ne.symm hname))
      rw [hnone, hnone]
      exact .none
  have hrequests : ∀ s r, Turn.request s r ∈ turns → r.path ≠ installPath ∧ s.now = ⟨100, 0⟩ := by
    intro s r h
    simp only [turns, List.mem_cons, List.not_mem_nil, or_false, Turn.request.injEq] at h
    rcases h with ⟨rfl, rfl⟩ | ⟨rfl, rfl⟩
    · exact ⟨by decide, rfl⟩
    · exact ⟨by decide, rfl⟩
  have hunusable : ∀ name t, hidden name t → ∀ s r, Turn.request s r ∈ turns →
      t.usableAt s.now = false := by
    rintro name t ⟨-, rfl | rfl⟩ s r h
    · rfl
    · rw [(hrequests s r h).2]
      decide
  obtain ⟨hanswers, hafter⟩ :=
    unusable_tokens_hidden hbuilt hsame (fun s r h => (hrequests s r h).1) hunusable
  refine ⟨hbuilt, hsame, ?_, hanswers, hafter, ?_, ?_⟩ <;> decide +kernel

end Service.Concealed
end Fleet

import Fleet.Proofs.Rejection
import Fleet.Proofs.SingleUse

/-! # What a bootstrap token is spent for

A request spends the bootstrap token of a cluster if the cluster has an unused one before the
request, and is still stored but without one afterwards.  Only handshakes do so: any other errand
leaves every unused token as it is, unless it deletes the cluster (`Recorded.leavesToken`).  A
handshake that does so gives the manifests of the cluster.  They are in the body of the response,
except if the request asked for the head of the response only: then the token is spent, and nothing
is given for it.

Main statement: `spent_for_manifests`. -/

namespace Fleet

open Http Resource Store Service

namespace Service

/-! ### Errands that leave tokens alone -/

/-- What an errand that is no handshake observes leaves the bootstrap token as it is. -/
theorem Errand.Observes.bootstrapToken?_eq {e : Errand} {found c : Cluster}
    (h : e.Observes found c) (hother : ∀ r now, e ≠ .handshake r now)
    (hfresh : e.context?.isSome → found.status = none) :
    c.bootstrapToken? = found.bootstrapToken? := by
  have hcreated : ∀ given : Cluster, e.Prepared given → found.status = none →
      c = { found with status := given.status } → c.bootstrapToken? = found.bootstrapToken? := by
    rintro given hgiven hstatus rfl
    have hnone := hgiven.bootstrapToken?
    unfold Cluster.bootstrapToken? at hnone ⊢
    rw [hnone, hstatus]
    rfl
  cases e with
  | handshake r now => exact absurd rfl (hother r now)
  | updateCluster x id p => exact h.bootstrapToken?_updateCluster
  | reportCompilation id report => exact h.bootstrapToken?_reportCompilation
  | createCluster | putCluster =>
      obtain ⟨given, hgiven, hc⟩ := h
      exact hcreated given hgiven (hfresh rfl) hc
  | _ =>
      obtain ⟨given, hgiven, -⟩ := h
      cases hgiven

/-- What an errand leaves of an unused token: the token, unless the errand is to delete the cluster. -/
def LeavesToken (e : Errand) (m : Memory) (name : String) : Prop :=
  HoldsUnused m name ∨ e = .deleteCluster name ∧ m.clusters.get? name = none

section Steps

variable {e : Errand} {m m' : Memory} {key name : String}

theorem LeavesToken.congr (h : LeavesToken e m name)
    (htoken : token? m'.clusters name = token? m.clusters name)
    (hnone : m.clusters.get? name = none → m'.clusters.get? name = none) :
    LeavesToken e m' name := by
  unfold LeavesToken HoldsUnused at h ⊢
  rw [htoken]
  exact h.imp_right (And.imp_right hnone)

theorem LeavesToken.of_clusters_eq (h : LeavesToken e m name) (hsame : m'.clusters = m.clusters) :
    LeavesToken e m' name := h.congr (by rw [hsame]) (fun hnone => by rw [hsame]; exact hnone)

theorem token?_insert_same {d : Dict Cluster} {c : Cluster} (hc : c.bootstrapToken? = token? d key) :
    token? (d.insert key c) name = token? d name := by
  rw [token?_insert]
  split
  · next hkey => rw [← hkey, hc]
  · rfl

/-- A write that leaves the token of the cluster written alone, by an errand that deletes none. -/
theorem LeavesToken.insert {c : Cluster} (h : LeavesToken e m name)
    (hwritten : m'.clusters = m.clusters.insert key c)
    (hc : c.bootstrapToken? = token? m.clusters key) (hkeeps : e ≠ .deleteCluster name) :
    LeavesToken e m' name := by
  have hunused : HoldsUnused m name := h.resolve_right (fun hdeleted => hkeeps hdeleted.1)
  unfold HoldsUnused at hunused
  rw [← token?_insert_same hc, ← hwritten] at hunused
  exact Or.inl hunused

section Recorded

variable {errand : Unit → Errand} {start : Memory} {log : Log Unit}

/-- What happens to clusters, by an errand that is no handshake. -/
theorem ClusterStep.leavesToken (h : ClusterStep errand m m')
    (hother : ∀ r now, errand () ≠ .handshake r now) (hm : LeavesToken (errand ()) m name) :
    LeavesToken (errand ()) m' name := by
  cases h with
  | same hsame => exact hm.of_clusters_eq hsame
  | @created _ c hnew hfree hwritten =>
      have hnone : token? m.clusters c.name = none := by
        unfold token?
        rw [hfree]
        rfl
      refine hm.insert hwritten hnone.symm ?_
      intro hdelete
      rw [hdelete] at hnew
      obtain ⟨x, given, hcontext, -⟩ := hnew
      cases hcontext
  | rewritten hrewrites hget hwritten =>
      refine hm.insert hwritten (token?_of_get? hget).symm ?_
      intro hdelete
      rw [hdelete] at hrewrites
      exact hrewrites
  | observed hobserves hfresh hget hwritten =>
      have htoken := (hobserves.bootstrapToken?_eq hother hfresh).trans (token?_of_get? hget).symm
      refine hm.insert hwritten htoken ?_
      intro hdelete
      rw [hdelete] at hobserves
      obtain ⟨given, hgiven, -⟩ := hobserves
      exact hgiven
  | @deleted _ key hdelete herased =>
      by_cases hkey : key = name
      · subst hkey
        refine Or.inr ⟨hdelete, ?_⟩
        rw [herased, Dict.get?_erase, if_pos rfl]
      · refine hm.congr ?_ ?_
        · rw [herased, token?_erase, if_neg hkey]
        · intro hnone
          rw [herased, Dict.get?_erase, if_neg hkey, hnone]
  | @touched key found hget hwritten =>
      refine hm.congr ?_ ?_
      · rw [hwritten]
        exact token?_insert_same (token?_of_get? hget).symm
      · intro hnone
        have hkey : key ≠ name := by
          rintro rfl
          rw [hget] at hnone
          cases hnone
        rw [hwritten, Dict.get?_insert, if_neg hkey, hnone]

/-- Whatever an errand that is no handshake does, it leaves unused tokens. -/
theorem Recorded.leavesToken (h : Recorded errand start log m) (hs : start.IsSound)
    (hother : ∀ r now, errand () ≠ .handshake r now) (hstart : HoldsUnused start name) :
    LeavesToken (errand ()) m name := by
  induction h with
  | nil => exact Or.inl hstart
  | cons hrest hhappens hallows ih =>
      exact ((hrest.remembered hs).objectSteps hhappens hallows).2.leavesToken hother ih

end Recorded

end Steps

/-! ### Requests -/

/-- Only a request for manifests asks for a handshake. -/
theorem install_of_errand? {s : Setting} {r : Http.Request} {hr : Handshake.Request} {now : Instant}
    (h : errand? s r = some (.handshake hr now)) :
    r.path = Credential.installPath ∧ Route.install.operation? r.method = some .install := by
  obtain ⟨route, hroute, h⟩ := Option.bind_eq_some_iff.1 h
  obtain ⟨o, ho, h⟩ := Option.bind_eq_some_iff.1 h
  have hinstall : o = .install := by
    cases o <;> simp [operationErrand?, Option.bind_eq_some_iff] at h ⊢
  have haccess := Route.access_of_operation? ho
  rw [hinstall] at haccess
  have hknown : route = .install := by
    cases route <;> first | rfl | cases haccess
  rw [hknown] at hroute ho
  exact ⟨Route.path_of_install hroute, hinstall ▸ ho⟩

theorem HoldsUnused.of_holdsSame {m m' : Memory} {name : String} (h : HoldsUnused m name)
    (hsame : m.HoldsSame m') : HoldsUnused m' name := by
  obtain ⟨n, rfl⟩ := hsame
  exact h

theorem not_holdsUnused_of_token? {m : Memory} {name : String} {t : BootstrapToken}
    (h : token? m.clusters name = some t) (hused : t.valid = false) : ¬ HoldsUnused m name := by
  rintro ⟨t', ht', hvalid⟩
  rw [h] at ht'
  cases ht'
  rw [hused] at hvalid
  cases hvalid

/-- A handshake that spends the token of a cluster gives the manifests of the cluster. -/
theorem bundle_of_spent {r : Handshake.Request} {now : Instant} {m m' : Memory} {v : Json.Value}
    {name : String} (h : r.Serves now m v m') (hunused : HoldsUnused m name)
    (hspent : ¬ HoldsUnused m' name) : ∃ b, b.cluster = name ∧ v = Handshake.bundle b := by
  obtain ⟨token, c, account, spent, -, -, -, -, hv, hclusters⟩ := h
  refine ⟨_, ?_, hv⟩
  by_contra hkey
  refine hspent ?_
  unfold HoldsUnused at hunused ⊢
  rw [hclusters, token?_insert, if_neg hkey]
  exact hunused

end Service

/-- Requests are answered one after another, with a store that was made in any way.  If the next one
spends the bootstrap token of a cluster, then its response has the status 200, and its body is the
manifests of the cluster; only of a request for the head of the response the body is empty. -/
theorem spent_for_manifests {start : World} (hbuilt : start.store.Built) (turns : List Turn)
    (s : Setting) (r : Http.Request) (name : String) :
    let w := start.after turns
    let answer := w.run (respond s r)
    HoldsUnused w.store name → (answer.2.store.clusters.get? name).isSome →
      ¬ HoldsUnused answer.2.store name →
    answer.1.status = 200 ∧ ∃ b, b.cluster = name ∧
      answer.1.body = if r.method = "HEAD" then .empty else .json (Handshake.bundle b) := by
  intro w answer hunused hstored hspent
  have hs : w.store.IsSound := isSound_after hbuilt.isSound turns
  -- the errand is a handshake, since any other one leaves the token
  have hhandshake : ∃ hr now, errand? s r = some (.handshake hr now) := by
    by_contra hother
    have herrand : ∃ e : Errand, (errand? s r).getD e = e ∧ ∀ hr now, e ≠ .handshake hr now := by
      cases he : errand? s r with
      | none => exact ⟨.listTenants, rfl, fun _ _ h => by cases h⟩
      | some e => exact ⟨e, rfl, fun hr now h => hother ⟨hr, now, he.trans (congrArg some h)⟩⟩
    obtain ⟨e, he, hother⟩ := herrand
    obtain ⟨log, hrecorded⟩ := exists_recorded_respond hs he
    rcases hrecorded.leavesToken hs hother hunused with hkept | ⟨-, hnone⟩
    · exact hspent hkept
    · rw [show answer.2.store.clusters.get? name = none from hnone] at hstored
      cases hstored
  obtain ⟨hr, now, hhandshake⟩ := hhandshake
  obtain ⟨hpath, hmethod⟩ := install_of_errand? hhandshake
  obtain ⟨result, hends, hresponse⟩ := exists_respond_install hs s hpath hmethod
  rw [show answer.1 = _ from hresponse]
  cases hends with
  | noClient error hsame => exact absurd (hunused.of_holdsSame hsame) hspent
  | refused hsame hrefused => exact absurd (hunused.of_holdsSame hsame) hspent
  | served hserves =>
      obtain ⟨b, hname, rfl⟩ := bundle_of_spent hserves hunused hspent
      exact ⟨rfl, b, hname, rfl⟩

/-! #### A cluster that fetches its manifests -/

namespace Service.Fetching

def setting : Setting := ⟨{}, ⟨0, 0⟩, fun _ => 0⟩

/-- The cluster presents its token. -/
def request (method : String) : Http.Request where
  method := method
  path := "/install/steward.json"
  query := some "token=abc"

/-- The response, and the world that it leaves. -/
def answer (method : String) : Response × World := Race.world.run (respond setting (request method))

/-- The token as it is left. -/
def used : BootstrapToken := ⟨"abc", false, ⟨4102444800, 0⟩⟩

theorem holdsUnused_store : HoldsUnused Race.store "c-1" :=
  ⟨{ used with valid := true }, by decide +kernel, rfl⟩

theorem spent_for_manifests_get : HoldsUnused Race.store "c-1" ∧
    ((answer "GET").2.store.clusters.get? "c-1").isSome ∧
    ¬ HoldsUnused (answer "GET").2.store "c-1" ∧ (answer "GET").1.status = 200 ∧
    ∃ b, b.cluster = "c-1" ∧ (answer "GET").1.body = .json (Handshake.bundle b) := by
  have hbuilt : Race.world.store.Built := .insertSecret _ (.writeCluster _ (.empty "fleet"))
  have hstored : ((answer "GET").2.store.clusters.get? "c-1").isSome := by decide +kernel
  have hused : token? (answer "GET").2.store.clusters "c-1" = some used := by decide +kernel
  have hspent := not_holdsUnused_of_token? hused rfl
  exact ⟨holdsUnused_store, hstored, hspent,
    spent_for_manifests hbuilt [] setting (request "GET") "c-1" holdsUnused_store hstored hspent⟩

/-- A request for the head of the response spends the token, and no body comes back. -/
theorem spent_for_nothing_head : HoldsUnused Race.store "c-1" ∧
    token? (answer "HEAD").2.store.clusters "c-1" = some used ∧ (answer "HEAD").1.status = 200 ∧
    ¬ ∃ b, (answer "HEAD").1.body = .json (Handshake.bundle b) := by
  have hused : token? (answer "HEAD").2.store.clusters "c-1" = some used := by decide +kernel
  have hstatus : (answer "HEAD").1.status = 200 := by decide +kernel
  have hbody : (answer "HEAD").1.body = .empty := by decide +kernel
  refine ⟨holdsUnused_store, hused, hstatus, ?_⟩
  rintro ⟨b, hb⟩
  rw [hbody] at hb
  cases hb

end Service.Fetching
end Fleet

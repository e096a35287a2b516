import Fleet.Proofs.Exchange.Repo
import Fleet.Proofs.Rejection

/-! # Repositories of tenants

A tenant has a repository if it has a URL, or if the git controller manages one for it
(`Tenant.HasRepo`).  A new tenant without one is refused.  An update is not: it may clear the URL of
a repository that the git controller leaves alone, or have it leave one alone that has no URL
(`TenantProperties.Abandons`).

Main statement: `tenant_keeps_repo`. -/

namespace Fleet

open Http Record Resource Store Service

/-- The tenant has a repository: there is a URL, or the git controller manages one. -/
def Resource.Tenant.HasRepo (t : Resource.Tenant) : Prop :=
  t.spec.gitRepoUrl ≠ "" ∨ t.spec.gitRepoTemplate.map (·.repoType) = some .auto

/-- The properties leave a tenant without a repository: with neither a URL nor a type for which the
git controller manages one. -/
def Record.TenantProperties.Abandons (p : TenantProperties) (t : Resource.Tenant) : Prop :=
  ∃ repo, p.gitRepo = some repo ∧ repo.repo.url.getD t.spec.gitRepoUrl = "" ∧
    repo.repo.repoType.or (t.spec.gitRepoTemplate.map (·.repoType)) ≠ some .auto

/-- All tenants have a repository. -/
def Store.Memory.AllHaveRepo (m : Memory) : Prop :=
  ∀ name t, m.tenants.get? name = some t → t.HasRepo

/-! ### Updates -/

namespace Exchange

/-- The type of a repository after a change. -/
theorem repoType_of_nextTemplate {repo : GitRepo} {url name : String}
    {template next : Option RepoTemplate}
    (h : nextTemplate repo (repo.url.getD url) name template = .ok next) :
    next.map (·.repoType) = mergeType (shownRepo url "" template) repo := by
  have hshown := shown_nextTemplate repo url "" name template
  rw [h] at hshown
  obtain ⟨-, -, hmerged⟩ := Result.exists_of_bind hshown.symm
  obtain ⟨-, -, hmerged⟩ := Result.exists_of_bind hmerged
  exact (congrArg GitRepo.repoType (Except.ok.inj hmerged)).symm

/-- A repository that is given no URL does not change its type for it. -/
theorem mergeType_of_empty {repo : GitRepo} {url hostKeys : String} {template : Option RepoTemplate}
    (h : repo.url.getD url = "") :
    mergeType (shownRepo url hostKeys template) repo =
      repo.repoType.or (template.map (·.repoType)) := by
  have hgiven : repo.url.bind nonEmpty = none := by
    cases hurl : repo.url with
    | none => rfl
    | some given =>
        rw [hurl] at h
        subst h
        rfl
  unfold mergeType
  rw [hgiven]
  exact congrArg repo.repoType.or (Option.or_none)

/-- An update takes the repository away exactly if it abandons it. -/
theorem Tenant.hasRepo_iff_of_result_take {p : TenantProperties} {t t' : Resource.Tenant}
    (h : t.HasRepo) (hok : (Tenant.take p).result t = .ok t') : t'.HasRepo ↔ ¬ p.Abandons t := by
  obtain ⟨template, htemplate, rfl⟩ := Tenant.exists_of_result_take hok
  unfold TenantProperties.Abandons
  cases hgiven : p.gitRepo with
  | none =>
      rw [hgiven] at htemplate
      cases htemplate
      have hsame : (Tenant.amended p t.spec.gitRepoTemplate t).HasRepo ↔ t.HasRepo := by
        unfold Resource.Tenant.HasRepo Tenant.amended
        rw [hgiven]
        rfl
      simp [hsame, h]
  | some repo =>
      rw [hgiven] at htemplate
      have htype := repoType_of_nextTemplate htemplate
      unfold Resource.Tenant.HasRepo Tenant.amended
      rw [hgiven, htype]
      change (repo.repo.url.getD t.spec.gitRepoUrl ≠ "" ∨ _) ↔ _
      by_cases hurl : repo.repo.url.getD t.spec.gitRepoUrl = ""
      · rw [mergeType_of_empty hurl]
        simp only [hurl, ne_eq, not_true_eq_false, false_or, Option.some.injEq, exists_eq_left',
          true_and, not_not]
      · simp [hurl]

/-! ### New tenants -/

/-- The secret for the git host does not matter. -/
theorem Tenant.hasRepo_withSecret {t : Resource.Tenant} (h : t.HasRepo) (secret : Option String) :
    (Tenant.withSecret secret t).HasRepo := by
  cases secret with
  | none => exact h
  | some secret =>
      refine h.imp_right (fun htype => Eq.trans ?_ htype)
      unfold Tenant.withSecret
      dsimp only
      rw [Option.map_map]
      congr 1
      funext template
      dsimp only [Function.comp_apply]
      split <;> rfl

theorem Tenant.hasRepo_of_result_complete {d : Tenant.Defaults} {t t' : Resource.Tenant}
    (h : (Tenant.complete d).result t = .ok t') : t'.HasRepo := by
  rw [Tenant.result_complete] at h
  split at h
  · split at h
    · cases h
      exact Tenant.hasRepo_withSecret (Or.inr rfl) _
    · cases h
  · next hurl =>
      cases h
      exact Tenant.hasRepo_withSecret (Or.inl (mt String.isEmpty_iff.2 hurl)) _

end Exchange

namespace Service

theorem Errand.NewTenant.hasRepo {e : Errand} {t : Resource.Tenant} (h : e.NewTenant t) :
    t.HasRepo := by
  cases e with
  | createTenant config words record =>
      obtain ⟨id, t', -, -, -, hcomplete⟩ := exists_of_prepareTenant h
      exact Exchange.Tenant.hasRepo_of_result_complete hcomplete
  | _ => cases h

/-! ### Steps -/

section Steps

variable {ι : Type} {errand : ι → Errand} {start m m' : Memory} {log : Log ι}

/-- No errand changes a tenant with a repository to one without. -/
def KeepRepos (errand : ι → Errand) : Prop :=
  ∀ i found t, (errand i).ChangesTenant found t → found.HasRepo → t.HasRepo

theorem TenantStep.allHaveRepo (h : TenantStep errand m m') (hkeep : KeepRepos errand)
    (hm : m.AllHaveRepo) : m'.AllHaveRepo := by
  unfold Memory.AllHaveRepo
  cases h with
  | same hsame =>
      rw [hsame]
      exact hm
  | @created i t hnew hwritten =>
      rw [hwritten]
      have ht : t.HasRepo := hnew.hasRepo
      exact forall_insert hm ht
  | @changed i found t hchanges hget hwritten =>
      rw [hwritten]
      have ht : t.HasRepo := hkeep i found t hchanges (hm t.name found hget)
      exact forall_insert hm ht
  | deleted herased =>
      rw [herased]
      exact forall_erase hm

theorem Recorded.allHaveRepo [DecidableEq ι] (h : Recorded errand start log m)
    (hs : start.IsSound) (hkeep : KeepRepos errand) (hstart : start.AllHaveRepo) :
    m.AllHaveRepo := by
  induction h with
  | nil => exact hstart
  | cons hrest hhappens hallows ih =>
      exact ((hrest.remembered hs).objectSteps hhappens hallows).1.allHaveRepo hkeep ih

end Steps

/-! ### Requests that update a tenant -/

section Updates

variable {w : World} {s : Setting} {r : Http.Request} {id : String} {p : TenantProperties}

/-- A request that updates a tenant and is not refused stores what the properties make of it. -/
theorem exists_updated (he : errand? s r = some (.updateTenant id p))
    (hdone : (w.run (respond s r)).1.status < 400) :
    ∃ found changed, w.store.tenants.get? id = some found ∧
      (Exchange.Tenant.take p).result found = .ok changed ∧
      (w.run (respond s r)).2.store = (w.store.writeTenant changed).2 := by
  have h500 : 400 ≤ 500 := by decide
  obtain ⟨token, hacts⟩ := exists_actsAs ((access_of_errand? he).2 (by simp)) hdone
  have hends := Leads.respond (leads_authenticate (R := fun e _ => 400 ≤ e.status)
    (D := fun _ w' => ∃ found changed, w.store.tenants.get? id = some found ∧
      (Exchange.Tenant.take p).result found = .ok changed ∧
      w'.store = (w.store.writeTenant changed).2)
    he ⟨.tenant, fun _ => rfl, fun _ => rfl⟩ hacts (fun _ _ _ _ => h500) (by
      intro client w' hstore
      rw [← hstore]
      exact (Errand.leads_updateTenant id p).mono (fun _ _ h => h.refused) (fun _ _ h => h)))
  obtain ⟨e, hrefused, hresponse⟩ | ⟨_, ⟨_, hstored, -⟩, -⟩ := hends
  · rw [hresponse] at hdone
    have hrefused : 400 ≤ (finish r (Route.of? r.path) e.response).status := hrefused
    omega
  · exact hstored

/-- The tenant that was updated, and whether it has a repository left. -/
theorem exists_stored_of_update (hs : w.store.IsSound)
    (he : errand? s r = some (.updateTenant id p)) {t : Resource.Tenant}
    (hget : w.store.tenants.get? id = some t) (ht : t.HasRepo)
    (hdone : (w.run (respond s r)).1.status < 400) :
    ∃ t', (w.run (respond s r)).2.store.tenants.get? id = some t' ∧
      (t'.HasRepo ↔ ¬ p.Abandons t) := by
  obtain ⟨found, changed, hfound, htake, hstore⟩ := exists_updated he hdone
  rw [hget] at hfound
  cases hfound
  have hname : changed.name = id :=
    (Exchange.Tenant.name_of_result_take htake).trans (hs.tenants.named id t hget)
  have hrepo := Exchange.Tenant.hasRepo_iff_of_result_take ht htake
  refine ⟨{ changed with metadata := w.store.stamp changed.metadata }, ?_, hrepo⟩
  rw [hstore]
  exact (Dict.get?_insert _ _ _ _).trans (if_pos hname)

theorem allHaveRepo_update (hs : w.store.IsSound) (hdated : w.store.IsDated)
    (hall : w.store.AllHaveRepo) (he : errand? s r = some (.updateTenant id p))
    (hkeeps : ∀ t, w.store.tenants.get? id = some t → ¬ p.Abandons t) :
    (w.run (respond s r)).2.store.AllHaveRepo := by
  rcases tells_respond s r hs hdated with ⟨-, ⟨n, hsame⟩ | ⟨-, e, he', hhalf⟩⟩ | ⟨hdone, -⟩
  · unfold Memory.AllHaveRepo
    rw [hsame]
    exact hall
  · -- an update of a tenant is one write
    rw [he] at he'
    cases he'
    obtain ⟨_, hproperties, -⟩ := hhalf.asks
    cases hproperties
  · obtain ⟨found, changed, hget, htake, hstore⟩ := exists_updated he hdone
    have hchanged : changed.HasRepo :=
      (Exchange.Tenant.hasRepo_iff_of_result_take (hall id found hget) htake).2 (hkeeps found hget)
    rw [hstore]
    exact forall_insert hall hchanged

end Updates

/-! ### Runs -/

/-- The worlds that requests lead to as long as no update abandons the repository of a tenant: one
that is answered alone not that of the tenant it finds, and one that is interleaved with others not
that of any tenant. -/
inductive Careful : World → Prop where
  | empty (ns : String) (cacheSize : Nat) : Careful (World.empty ns cacheSize)
  | respond {w : World} (s : Setting) (r : Http.Request) : Careful w →
    (∀ id p t, errand? s r = some (.updateTenant id p) → w.store.tenants.get? id = some t →
      ¬ p.Abandons t) →
    Careful (w.run (respond s r)).2
  | interleave {w : World} {ι : Type} [DecidableEq ι] (s : ι → Setting) (r : ι → Http.Request)
      (moves : List (Move ι)) : Careful w →
    (∀ i id p t, errand? (s i) (r i) = some (.updateTenant id p) → t.HasRepo → ¬ p.Abandons t) →
    Careful ((Workshop.opening w (fun i => Service.respond (s i) (r i))).run moves).world

theorem Careful.reachable {w : World} (h : Careful w) : Reachable w := by
  induction h with
  | empty ns cacheSize => exact .empty ns cacheSize
  | respond s r _ _ ih => exact .respond s r ih
  | interleave s r moves _ _ ih => exact .interleave s r moves ih

/-- A request keeps the repositories of all tenants unless it updates one and abandons its. -/
theorem allHaveRepo_respond {w : World} (hw : Reachable w) {s : Setting} {r : Http.Request}
    (hall : w.store.AllHaveRepo)
    (hkeeps : ∀ id p t, errand? s r = some (.updateTenant id p) →
      w.store.tenants.get? id = some t → ¬ p.Abandons t) :
    (w.run (respond s r)).2.store.AllHaveRepo := by
  have hother : ∀ e : Errand, (errand? s r).getD e = e →
      (∀ found t, ¬ e.ChangesTenant found t) → (w.run (respond s r)).2.store.AllHaveRepo := by
    intro e he hno
    obtain ⟨log, hrecorded⟩ := exists_recorded_respond hw.isSound he
    exact hrecorded.allHaveRepo hw.isSound
      (fun _ found t hchanges _ => absurd hchanges (hno found t)) hall
  cases he : errand? s r with
  | none =>
      refine hother .listTenants ?_ (fun _ _ h => h)
      rw [he]
      rfl
  | some e =>
      have hsame : (errand? s r).getD e = e := by rw [he, Option.getD_some]
      cases e with
      | updateTenant id p =>
          have hdated : w.store.IsDated := isDated_iff_all.2 (hw.all upholds_isDated)
          exact allHaveRepo_update hw.isSound hdated hall he (fun t => hkeeps id p t he)
      | _ => exact hother _ hsame (fun _ _ h => h)

theorem Careful.allHaveRepo {w : World} (h : Careful w) : w.store.AllHaveRepo := by
  induction h with
  | empty ns cacheSize => exact fun _ _ hget => (by cases hget)
  | respond s r hw hkeeps ih => exact allHaveRepo_respond hw.reachable ih hkeeps
  | interleave s r moves hw hkeeps ih =>
      have herrand : ∀ i, (errand? (s i) (r i)).getD ((errand? (s i) (r i)).getD .listTenants) =
          (errand? (s i) (r i)).getD .listTenants := by
        intro i
        cases errand? (s i) (r i) <;> rfl
      obtain ⟨log, hrecorded⟩ := exists_recorded_interleave hw.reachable.isSound herrand moves
      refine hrecorded.allHaveRepo hw.reachable.isSound ?_ ih
      intro i found t hchanges hfound
      dsimp only at hchanges
      cases he : errand? (s i) (r i) with
      | none =>
          rw [he] at hchanges
          cases hchanges
      | some e =>
          rw [he] at hchanges
          cases e with
          | updateTenant id p =>
              exact (Exchange.Tenant.hasRepo_iff_of_result_take hfound hchanges).2
                (hkeeps i id p found he hfound)
          | _ => cases hchanges

end Service

/-! ### Result -/

/-- Requests lead from an empty store to a world, alone or interleaved.  As long as no update abandons
the repository of a tenant, every stored tenant has one: a URL, or one that the git controller
manages.  An update that is done takes it away exactly if it abandons it, which nothing prevents. -/
theorem tenant_keeps_repo {w : World} :
    (Careful w → ∀ name t, w.store.tenants.get? name = some t → t.HasRepo) ∧
    (Reachable w → ∀ s r id p t, errand? s r = some (.updateTenant id p) →
      w.store.tenants.get? id = some t → t.HasRepo → (w.run (respond s r)).1.status < 400 →
      ∃ t', (w.run (respond s r)).2.store.tenants.get? id = some t' ∧
        (t'.HasRepo ↔ ¬ p.Abandons t)) :=
  ⟨fun h => h.allHaveRepo, fun h _ _ _ _ _ he hget ht hdone =>
    exists_stored_of_update h.isSound he hget ht hdone⟩

/-! #### A repository that is given up -/

namespace Service.GivenUp

/-- A client registers a tenant with a repository. -/
def registration : Http.Request where
  method := "POST"
  path := "/tenants"
  headers := [("authorization", "Bearer abc")]
  body := Text.encode r#"{"id":"t-1","gitRepo":{"url":"ssh://git@h/g/r.git"}}"#

/-- The repository is to be left alone, and loses its URL. -/
def update : Http.Request where
  method := "PATCH"
  path := "/tenants/t-1"
  headers := [("authorization", "Bearer abc")]
  body := Text.encode r#"{"gitRepo":{"url":"","type":"unmanaged"}}"#

def setting : Setting := ⟨{}, ⟨0, 0⟩, fun _ => 0⟩

def properties : TenantProperties where
  gitRepo := some { repo := { url := some "", repoType := some .unmanaged } }

/-- The world with the new tenant. -/
def world : World := ((World.empty "fleet" 1).run (respond setting registration)).2

/-- The response to the update, and the world that it leaves. -/
def answer : Response × World := world.run (respond setting update)

/-- What is stored of the repository of the tenant. -/
def repo? (w : World) : Option (String × Option RepoType) :=
  (w.store.tenants.get? "t-1").map
    (fun t => (t.spec.gitRepoUrl, t.spec.gitRepoTemplate.map (·.repoType)))

theorem exists_of_repo? {w : World} {url : String} {type : Option RepoType}
    (h : repo? w = some (url, type)) : ∃ t, w.store.tenants.get? "t-1" = some t ∧
      t.spec.gitRepoUrl = url ∧ t.spec.gitRepoTemplate.map (·.repoType) = type := by
  obtain ⟨t, hget, hrepo⟩ := Option.map_eq_some_iff.1 h
  exact ⟨t, hget, Prod.mk.inj hrepo⟩

theorem repo?_answer : repo? answer.2 = some ("", some .unmanaged) := by decide +kernel

/-- The update is done, and gives the repository up. -/
theorem tenant_keeps_repo_givenUp : Careful world ∧
    errand? setting update = some (.updateTenant "t-1" properties) ∧ answer.1.status = 200 ∧
    (∃ t, world.store.tenants.get? "t-1" = some t ∧ t.HasRepo ∧ properties.Abandons t) ∧
    ∃ t, answer.2.store.tenants.get? "t-1" = some t ∧ ¬ t.HasRepo := by
  have hstart : Careful (World.empty "fleet" 1) := .empty "fleet" 1
  have hcareful : Careful world := by
    refine .respond setting registration hstart ?_
    intro id p t _ hget
    cases hget
  have herrand : errand? setting update = some (.updateTenant "t-1" properties) := by
    have hroute : Route.of? update.path = some (.tenant "t-1") := by decide
    have ho : (Route.tenant "t-1").operation? update.method = some (.updateTenant "t-1") := by
      decide
    have hid : pathId? "t-1" = some "t-1" := by decide +kernel
    have hreceived : receivedBody? update = some update.body := by decide +kernel
    have hbody : readStrict TenantProperties.layout update.body = .ok properties := by
      decide +kernel
    simp [errand?, operationErrand?, hroute, ho, hid, hreceived, hbody, Except.toOption]
  have hstatus : answer.1.status = 200 := by decide +kernel
  have hbefore : repo? world = some ("ssh://git@h/g/r.git", some .auto) := by decide +kernel
  obtain ⟨t, hget, -, htype⟩ := exists_of_repo? hbefore
  have hrepo : t.HasRepo := tenant_keeps_repo.1 hcareful "t-1" t hget
  have habandons : properties.Abandons t := ⟨_, rfl, rfl, by simp⟩
  have hdone : answer.1.status < 400 := by
    rw [hstatus]
    decide
  obtain ⟨t', hget', hiff⟩ :=
    tenant_keeps_repo.2 hcareful.reachable setting update "t-1" properties t herrand hget hrepo hdone
  exact ⟨hcareful, herrand, hstatus, ⟨t, hget, hrepo, habandons⟩, t', hget',
    fun hkept => hiff.1 hkept habandons⟩

/-- Requests lead to a tenant without a repository. -/
theorem tenant_loses_repo : Reachable answer.2 ∧
    ∃ t, answer.2.store.tenants.get? "t-1" = some t ∧ ¬ t.HasRepo := by
  refine ⟨.respond setting update (.respond setting registration (.empty "fleet" 1)), ?_⟩
  obtain ⟨t, hget, hurl, htype⟩ := exists_of_repo? repo?_answer
  refine ⟨t, hget, ?_⟩
  unfold Tenant.HasRepo
  rw [hurl, htype]
  simp

end Service.GivenUp
end Fleet

import Fleet.Proofs.Exchange.Halfway

/-! # Updates repeated and swapped

An update that has been taken over may be taken over again without changing anything, and two
updates that name no property in common may come in either order.

Both rest on what an update makes of an object once it succeeds (`Cluster.result_take`,
`Tenant.result_take`).  The template is the part that takes an argument: it is worked out from the
template there was, which the second time is one that was just worked out, or just given a deploy key.

Main statement: `updates_repeat_and_swap`. -/

namespace Fleet

open Record Resource

/-- No field of a record is written of both. -/
def Json.Layout.Apart {ρ : Type} (l : Json.Layout ρ) (p q : ρ) : Prop :=
  ∀ f ∈ l.fields, f.encode (f.get p) = none ∨ f.encode (f.get q) = none

theorem Json.Layout.Apart.symm {ρ : Type} {l : Json.Layout ρ} {p q : ρ} (h : l.Apart p q) :
    l.Apart q p := fun f hf => (h f hf).symm

namespace Exchange

/-! ### Templates -/

/-- A template brought in line with what its repository resolves to. -/
def refitted (resolved old : RepoTemplate) : RepoTemplate :=
  if resolved.isManaged then
    { old with
      repoType := .auto
      path := resolved.path
      repoName := resolved.repoName
      displayName := if old.displayName.isEmpty then resolved.displayName else old.displayName }
  else { old with repoType := .unmanaged, path := "", repoName := "", deployKeys := .empty }

/-- Whether a template stays as it is because nothing is named that it is worked out from, or
because the repository is left alone. -/
def Stays (template : Option RepoTemplate) (repo : GitRepo) (urlGiven : Bool) : Prop :=
  (repo.repoType = none ∧ ∃ t, template = some t ∧ t.isManaged = false) ∨
    repo.repoType = none ∧ urlGiven = false

theorem updateTemplate_of_stays {template : Option RepoTemplate} {repo : GitRepo} {urlGiven : Bool}
    (h : Stays template repo urlGiven) (name : String) :
    updateTemplate template repo urlGiven name = .ok template := by
  unfold updateTemplate
  rcases h with ⟨htype, t, rfl, hleft⟩ | ⟨htype, rfl⟩
  · exact if_pos (by simp [htype, hleft])
  · exact if_pos (by simp [htype])

theorem updateTemplate_of_not_stays {template : Option RepoTemplate} {repo : GitRepo}
    {urlGiven : Bool} (h : ¬ Stays template repo urlGiven) (name : String) :
    updateTemplate template repo urlGiven name = (resolveRepo repo name).map (fun resolved =>
      resolved.elim template (fun r => some (template.elim r (refitted r)))) := by
  have hcond : (!repo.repoType.isSome && template.any (fun t => !t.isManaged) ||
      !(repo.repoType.isSome || urlGiven)) = false := by
    rw [Bool.eq_false_iff]
    intro hstays
    refine h ?_
    unfold Stays
    cases template <;> simp_all
  unfold updateTemplate
  dsimp only
  rw [hcond]
  cases resolveRepo repo name with
  | error e => rfl
  | ok resolved =>
      cases resolved with
      | none => rfl
      | some r =>
          cases template with
          | none => rfl
          | some old =>
              change (if r.isManaged = true then _ else _) = Except.ok (some (refitted r old))
              unfold refitted
              split <;> rfl

theorem refitted_refitted (r old : RepoTemplate) : refitted r (refitted r old) = refitted r old := by
  unfold refitted
  by_cases h : r.isManaged = true
  · simp only [if_pos h]
    congr 1
    by_cases hempty : old.displayName.isEmpty = true <;> simp [hempty]
  · simp only [if_neg h]

/-- What a repository resolves to is in line with itself. -/
theorem refitted_self {repo : GitRepo} {name : String} {r : RepoTemplate}
    (h : resolveRepo repo name = .ok (some r)) : refitted r r = r := by
  rcases resolveRepo_eq_ok h with heq | ⟨-, heq⟩ | ⟨url, path, repoName, -, -, heq⟩
  · cases heq
    rfl
  · cases heq
  · cases heq
    unfold refitted
    simp [RepoTemplate.isManaged, RepoTemplate.managed]

/-- A template that is in line stays so. -/
theorem updateTemplate_again {template template' : Option RepoTemplate} {repo : GitRepo}
    {urlGiven : Bool} {name : String}
    (h : updateTemplate template repo urlGiven name = .ok template') :
    updateTemplate template' repo urlGiven name = .ok template' := by
  by_cases hstays' : Stays template' repo urlGiven
  · exact updateTemplate_of_stays hstays' name
  by_cases hstays : Stays template repo urlGiven
  · rw [updateTemplate_of_stays hstays] at h
    cases h
    exact absurd hstays hstays'
  · rw [updateTemplate_of_not_stays hstays] at h
    rw [updateTemplate_of_not_stays hstays']
    obtain ⟨resolved, hresolve, rfl⟩ := Result.exists_of_map h
    rw [hresolve]
    cases resolved with
    | none => rfl
    | some r =>
        cases template with
        | none => exact congrArg (fun t => Except.ok (some t)) (refitted_self hresolve)
        | some old => exact congrArg (fun t => Except.ok (some t)) (refitted_refitted r old)

/-- So does one that is given other deploy keys, while it is managed. -/
theorem updateTemplate_withKeys {t : RepoTemplate} {repo : GitRepo} {urlGiven : Bool}
    {name : String} (hmanaged : t.isManaged = true)
    (h : updateTemplate (some t) repo urlGiven name = .ok (some t)) (keys : Dict DeployKey) :
    updateTemplate (some { t with deployKeys := keys }) repo urlGiven name =
      .ok (some { t with deployKeys := keys }) := by
  by_cases hstays' : Stays (some { t with deployKeys := keys }) repo urlGiven
  · exact updateTemplate_of_stays hstays' name
  have hstays : ¬ Stays (some t) repo urlGiven := by
    refine mt ?_ hstays'
    rintro (⟨htype, t', heq, hleft⟩ | hnone)
    · cases heq
      exact Or.inl ⟨htype, _, rfl, hleft⟩
    · exact Or.inr hnone
  rw [updateTemplate_of_not_stays hstays] at h
  rw [updateTemplate_of_not_stays hstays']
  obtain ⟨resolved, hresolve, hfit⟩ := Result.exists_of_map h
  rw [hresolve]
  cases resolved with
  | none => rfl
  | some r =>
      have hfit : refitted r t = t := Option.some.inj hfit
      have hkeys : refitted r { t with deployKeys := keys } = { t with deployKeys := keys } := by
        unfold refitted at hfit ⊢
        split at hfit
        · next hr =>
            rw [if_pos hr]
            exact congrArg (fun t' : RepoTemplate => { t' with deployKeys := keys }) hfit
        · rw [← hfit] at hmanaged
          cases hmanaged
      exact congrArg (fun t => Except.ok (some t)) hkeys

/-- A deploy key that is set already is set again. -/
theorem addDeployKey_again {t : RepoTemplate} {words type key : String}
    (hmanaged : t.isManaged = true) (hread : readDeployKey words = some (type, key))
    (hkey : t.deployKeys.get? deployKeyName = some ⟨type, key, true⟩) :
    addDeployKey (some t) words = .ok t := by
  unfold addDeployKey
  rw [hread]
  dsimp only
  rw [if_pos hmanaged, Dict.insert_of_get? hkey]

theorem nextTemplate_again {repo : GitRepo} {url name : String}
    {template template' : Option RepoTemplate}
    (h : nextTemplate repo url name template = .ok template') :
    nextTemplate repo url name template' = .ok template' := by
  obtain ⟨t, hupdate, -⟩ := Result.exists_of_bind h
  have hupdate := Result.mapError_eq_ok_iff.1 hupdate
  rw [nextTemplate_of_updateTemplate hupdate] at h
  have hagain := updateTemplate_again hupdate
  cases hwords : repo.deployKey with
  | none =>
      rw [hwords] at h
      cases h
      rw [nextTemplate_of_updateTemplate hagain, hwords]
      rfl
  | some words =>
      rw [hwords] at h
      obtain ⟨keyed, hadd, rfl⟩ := Result.exists_of_map h
      obtain ⟨t, type, key, rfl, hmanaged, hread, rfl⟩ := addDeployKey_eq_ok hadd
      have hkey : (t.deployKeys.insert deployKeyName ⟨type, key, true⟩).get? deployKeyName =
          some ⟨type, key, true⟩ := by
        rw [Dict.get?_insert, if_pos rfl]
      have hadd' := addDeployKey_again
        (t := { t with deployKeys := t.deployKeys.insert deployKeyName ⟨type, key, true⟩ })
        hmanaged hread hkey
      rw [nextTemplate_of_updateTemplate (updateTemplate_withKeys hmanaged hagain _), hwords]
      exact congrArg (Except.map some) hadd'

/-- A repository that has been taken over may be taken over again. -/
theorem templateAfter_again {repo : Option GitRepo} {url name : String}
    {template template' : Option RepoTemplate}
    (h : templateAfter repo url name template = .ok template') :
    templateAfter repo ((repo.bind (·.url)).getD url) name template' = .ok template' := by
  cases repo with
  | none => rfl
  | some repo =>
      have hurl : repo.url.getD (repo.url.getD url) = repo.url.getD url := by
        cases repo.url <;> rfl
      unfold templateAfter at h ⊢
      dsimp only [Option.bind_some] at h ⊢
      rw [hurl]
      exact nextTemplate_again h

/-- Of two repositories only one of which is named, either may be taken over first. -/
theorem templateAfter_swap {repo repo' : Option GitRepo} {url name : String}
    {template middle last : Option RepoTemplate} (hapart : repo = none ∨ repo' = none)
    (h : templateAfter repo url name template = .ok middle)
    (h' : templateAfter repo' ((repo.bind (·.url)).getD url) name middle = .ok last) :
    ∃ middle', templateAfter repo' url name template = .ok middle' ∧
      templateAfter repo ((repo'.bind (·.url)).getD url) name middle' = .ok last := by
  rcases hapart with rfl | rfl
  · cases h
    exact ⟨last, h', rfl⟩
  · cases h'
    exact ⟨template, rfl, h⟩

/-! ### Parts of objects -/

section Parts

variable {α β : Type}

theorem getD_again (given : Option α) (a : α) : given.getD (given.getD a) = given.getD a := by
  cases given <;> rfl

theorem getD_swap {given given' : Option α} (h : given = none ∨ given' = none) (a : α) :
    given'.getD (given.getD a) = given.getD (given'.getD a) := by
  rcases h with rfl | rfl <;> rfl

/-- What is taken from parts that have nothing in common has nothing in common. -/
theorem bind_apart {given given' : Option α} (h : given = none ∨ given' = none)
    (f : α → Option β) : given.bind f = none ∨ given'.bind f = none :=
  h.imp (fun h => by rw [h, Option.bind_none]) (fun h => by rw [h, Option.bind_none])

/-- Laying something over is repeated. -/
theorem elim_again {f : β → α → β} (h : ∀ b a, f (f b a) a = f b a) (given : Option α) (b : β) :
    given.elim (given.elim b (f b)) (f (given.elim b (f b))) = given.elim b (f b) := by
  cases given with
  | none => rfl
  | some a => exact h b a

theorem elim_swap {f : β → α → β} {given given' : Option α} (h : given = none ∨ given' = none)
    (b : β) : given'.elim (given.elim b (f b)) (f (given.elim b (f b))) =
      given.elim (given'.elim b (f b)) (f (given'.elim b (f b))) := by
  rcases h with rfl | rfl <;> rfl

end Parts

theorem mergeTexts_again (d : Option (Dict String)) (facts : Facts) :
    mergeTexts (mergeTexts d facts) facts = mergeTexts d facts := by
  unfold mergeTexts
  split
  · rfl
  · rw [Option.getD_some, Dict.overlay_again]

/-! ### Clusters -/

namespace Cluster

theorem statusAfter_again (facts : Option Facts) (m : Option CompileMeta)
    (status : Option ClusterStatus) :
    statusAfter facts m (statusAfter facts m status) = statusAfter facts m status := by
  cases facts <;> cases m <;> rfl

theorem amended_again (p : ClusterProperties) (template template' : Option RepoTemplate)
    (m : Option CompileMeta) (c : Resource.Cluster) :
    amended p template m (amended p template' m c) = amended p template m c := by
  unfold amended
  dsimp only
  rw [statusAfter_again, getD_again, getD_again, getD_again, getD_again, getD_again,
    elim_again mergeTexts_again, elim_again (f := fun d facts => Dict.overlay d (Facts.texts facts))
      (fun d facts => Dict.overlay_again d facts.texts)]

theorem result_take_again {p : ClusterProperties} {c c' : Resource.Cluster}
    (h : (take p).result c = .ok c') : (take p).result c' = .ok c' := by
  obtain ⟨template, m, htemplate, hm, rfl⟩ := exists_of_result_take h
  have hagain : (take p).result (amended p template m c) =
      .ok (amended p template m (amended p template m c)) :=
    result_take_of (templateAfter_again htemplate) hm
  rw [amended_again] at hagain
  exact hagain

theorem statusAfter_swap {facts facts' : Option Facts} {m m' : Option CompileMeta}
    (hfacts : facts = none ∨ facts' = none) (hm : m = none ∨ m' = none)
    (status : Option ClusterStatus) :
    statusAfter facts' m' (statusAfter facts m status) =
      statusAfter facts m (statusAfter facts' m' status) := by
  rcases hfacts with rfl | rfl <;> rcases hm with rfl | rfl
  · rfl
  · cases facts' <;> cases m <;> rfl
  · cases facts <;> cases m' <;> rfl
  · rfl

/-- What properties that have nothing in common name. -/
theorem named_of_apart {p q : ClusterProperties} (h : ClusterProperties.layout.Apart p q) :
    (p.displayName = none ∨ q.displayName = none) ∧ (p.annotations = none ∨ q.annotations = none) ∧
    (p.facts = none ∨ q.facts = none) ∧ (p.dynamicFacts = none ∨ q.dynamicFacts = none) ∧
    (p.gitRepo = none ∨ q.gitRepo = none) ∧
    (p.globalGitRepoRevision = none ∨ q.globalGitRepoRevision = none) ∧
    (p.tenantGitRepoRevision = none ∨ q.tenantGitRepoRevision = none) ∧
    (p.compileMeta = none ∨ q.compileMeta = none) := by
  simp only [Json.Layout.Apart, ClusterProperties.layout, List.forall_mem_cons,
    Json.Field.optional, Option.map_eq_none_iff] at h
  obtain ⟨hname, hannotations, hfacts, hdynamic, hrepo, hglobal, htenant, -, hreport, -⟩ := h
  exact ⟨hname, hannotations, hfacts, hdynamic, hrepo, hglobal, htenant, hreport⟩

theorem mapM_compileMeta_none {report : Option CompileReport} {m : Option CompileMeta}
    (h : report.mapM compileMeta = .ok m) (hnone : report = none) : m = none := by
  rw [hnone] at h
  exact (Except.ok.inj h).symm

/-- The second of two updates comes out of the first one as it does on its own, but for the
template. -/
theorem amended_swap {p q : ClusterProperties} (hapart : ClusterProperties.layout.Apart p q)
    {m m' : Option CompileMeta} (hm : m = none ∨ m' = none)
    (template middle middle' : Option RepoTemplate) (c : Resource.Cluster) :
    amended q template m' (amended p middle m c) = amended p template m (amended q middle' m' c) := by
  obtain ⟨hname, hannotations, hfacts, hdynamic, hrepo, hglobal, htenant, -⟩ := named_of_apart hapart
  unfold amended
  dsimp only
  rw [statusAfter_swap hdynamic hm, getD_swap hname, getD_swap (bind_apart hrepo _),
    getD_swap (bind_apart hrepo _), getD_swap hglobal, getD_swap htenant, elim_swap hannotations,
    elim_swap (f := fun d facts => Dict.overlay d (Facts.texts facts)) hfacts]

theorem result_take_swap {p q : ClusterProperties} (hapart : ClusterProperties.layout.Apart p q)
    {c c' : Resource.Cluster} (h : Change.result (do take p; take q) c = .ok c') :
    Change.result (do take q; take p) c = .ok c' := by
  rw [Change.result_bind] at h ⊢
  obtain ⟨first, hp, hq⟩ := Result.exists_of_bind h
  obtain ⟨middle, m, hmiddle, hm, rfl⟩ := exists_of_result_take hp
  obtain ⟨last, m', hlast, hm', rfl⟩ := exists_of_result_take hq
  obtain ⟨-, -, -, -, hrepo, -, -, hreport⟩ := named_of_apart hapart
  obtain ⟨middle', hmiddle', hlast'⟩ := templateAfter_swap hrepo hmiddle hlast
  have hnone : m = none ∨ m' = none :=
    hreport.imp (mapM_compileMeta_none hm) (mapM_compileMeta_none hm')
  have hfirst : (take q).result c = .ok (amended q middle' m' c) := result_take_of hmiddle' hm'
  have hsecond : (take p).result (amended q middle' m' c) =
      .ok (amended p last m (amended q middle' m' c)) := result_take_of hlast' hm
  rw [hfirst, amended_swap hapart hnone last middle middle' c]
  exact hsecond

end Cluster

/-! ### Tenants -/

namespace Tenant

theorem amended_again (p : TenantProperties) (template template' : Option RepoTemplate)
    (t : Resource.Tenant) :
    amended p template (amended p template' t) = amended p template t := by
  unfold amended
  dsimp only
  rw [getD_again, getD_again, getD_again, getD_again, getD_again, elim_again mergeTexts_again]

theorem result_take_again {p : TenantProperties} {t t' : Resource.Tenant}
    (h : (take p).result t = .ok t') : (take p).result t' = .ok t' := by
  obtain ⟨template, htemplate, rfl⟩ := exists_of_result_take h
  have htemplate' := templateAfter_again htemplate
  rw [Option.bind_map] at htemplate'
  have hagain : (take p).result (amended p template t) =
      .ok (amended p template (amended p template t)) := result_take_of htemplate'
  rw [amended_again] at hagain
  exact hagain

theorem named_of_apart {p q : TenantProperties} (h : TenantProperties.layout.Apart p q) :
    (p.displayName = none ∨ q.displayName = none) ∧ (p.annotations = none ∨ q.annotations = none) ∧
    (p.gitRepo = none ∨ q.gitRepo = none) ∧
    (p.globalGitRepoUrl = none ∨ q.globalGitRepoUrl = none) ∧
    (p.globalGitRepoRevision = none ∨ q.globalGitRepoRevision = none) := by
  simp only [Json.Layout.Apart, TenantProperties.layout, List.forall_mem_cons,
    Json.Field.optional, Option.map_eq_none_iff] at h
  obtain ⟨hname, hannotations, hrepo, hurl, hrevision, -⟩ := h
  exact ⟨hname, hannotations, hrepo, hurl, hrevision⟩

theorem amended_swap {p q : TenantProperties} (hapart : TenantProperties.layout.Apart p q)
    (template middle middle' : Option RepoTemplate) (t : Resource.Tenant) :
    amended q template (amended p middle t) = amended p template (amended q middle' t) := by
  obtain ⟨hname, hannotations, hrepo, hurl, hrevision⟩ := named_of_apart hapart
  unfold amended
  dsimp only
  rw [getD_swap hname, getD_swap (bind_apart hrepo _), getD_swap (bind_apart hrepo _),
    getD_swap hurl, getD_swap hrevision, elim_swap hannotations]

theorem result_take_swap {p q : TenantProperties} (hapart : TenantProperties.layout.Apart p q)
    {t t' : Resource.Tenant} (h : Change.result (do take p; take q) t = .ok t') :
    Change.result (do take q; take p) t = .ok t' := by
  rw [Change.result_bind] at h ⊢
  obtain ⟨first, hp, hq⟩ := Result.exists_of_bind h
  obtain ⟨middle, hmiddle, rfl⟩ := exists_of_result_take hp
  obtain ⟨last, hlast, rfl⟩ := exists_of_result_take hq
  have hrepo : p.gitRepo.map (·.repo) = none ∨ q.gitRepo.map (·.repo) = none :=
    (named_of_apart hapart).2.2.1.imp Option.map_eq_none_iff.2 Option.map_eq_none_iff.2
  have hurl : ∀ r : TenantProperties, (r.gitRepo.map (·.repo)).bind (·.url) =
      r.gitRepo.bind (·.repo.url) := fun r => Option.bind_map ..
  have hlast : templateAfter (q.gitRepo.map (·.repo))
      ((p.gitRepo.bind (·.repo.url)).getD t.spec.gitRepoUrl) t.name middle = .ok last := hlast
  rw [← hurl p] at hlast
  obtain ⟨middle', hmiddle', hlast'⟩ := templateAfter_swap hrepo hmiddle hlast
  rw [hurl] at hlast'
  have hfirst : (take q).result t = .ok (amended q middle' t) := result_take_of hmiddle'
  have hsecond : (take p).result (amended q middle' t) =
      .ok (amended p last (amended q middle' t)) := result_take_of hlast'
  rw [hfirst, amended_swap hapart last middle middle' t]
  exact hsecond

end Tenant

end Exchange

/-! ### Result -/

/-- An update of a cluster or tenant that succeeds may be made again, and changes nothing then.  Two
updates that name no field in common succeed one after the other just if they do in the other order,
and they lead to the same object. -/
theorem updates_repeat_and_swap :
    (∀ p c c', (Exchange.Cluster.take p).result c = .ok c' →
      (Exchange.Cluster.take p).result c' = .ok c') ∧
    (∀ p q, ClusterProperties.layout.Apart p q → ∀ c c',
      Exchange.Change.result (do Exchange.Cluster.take p; Exchange.Cluster.take q) c = .ok c' ↔
        Exchange.Change.result (do Exchange.Cluster.take q; Exchange.Cluster.take p) c = .ok c') ∧
    (∀ p t t', (Exchange.Tenant.take p).result t = .ok t' →
      (Exchange.Tenant.take p).result t' = .ok t') ∧
    ∀ p q, TenantProperties.layout.Apart p q → ∀ t t',
      Exchange.Change.result (do Exchange.Tenant.take p; Exchange.Tenant.take q) t = .ok t' ↔
        Exchange.Change.result (do Exchange.Tenant.take q; Exchange.Tenant.take p) t = .ok t' :=
  ⟨fun _ _ _ => Exchange.Cluster.result_take_again,
    fun _ _ h _ _ => ⟨Exchange.Cluster.result_take_swap h, Exchange.Cluster.result_take_swap h.symm⟩,
    fun _ _ _ => Exchange.Tenant.result_take_again,
    fun _ _ h _ _ => ⟨Exchange.Tenant.result_take_swap h, Exchange.Tenant.result_take_swap h.symm⟩⟩

namespace Exchange.Swapping

/-- A cluster of which nothing but the name is known. -/
def cluster : Resource.Cluster where
  metadata := { name := some "c-1" }

/-- An update of the repository and of what the platform reports. -/
def moved : ClusterProperties where
  gitRepo := some { url := some "ssh://git@h/g/r.git", deployKey := some "ssh-ed25519 AAAA" }
  dynamicFacts := some (.ofList [("ready", .bool true)])

/-- An update of the display name and of the compile report. -/
def compiled : ClusterProperties where
  displayName := some "One"
  compileMeta := some {}

/-- The cluster after the first update. -/
def movedCluster : Resource.Cluster where
  metadata := { name := some "c-1" }
  spec := {
    gitRepoUrl := "ssh://git@h/g/r.git"
    gitRepoTemplate := some { RepoTemplate.managed "g" "r" with
      displayName := "c-1", deployKeys := .ofList [("steward", ⟨"ssh-ed25519", "AAAA", true⟩)] } }
  status := some { facts := .ofList [("ready", "true")] }

/-- The cluster after both. -/
def finishedCluster : Resource.Cluster :=
  { movedCluster with
    spec.displayName := "One"
    status := some { facts := .ofList [("ready", "true")], compileMeta := some {} } }

/-- A tenant whose repository is left alone. -/
def tenant : Resource.Tenant where
  metadata := { name := some "t-1" }
  spec := { gitRepoUrl := "ssh://git@h/g/r.git", gitRepoTemplate := some .unmanaged }

/-- An update that has the repository managed. -/
def managed : TenantProperties where
  gitRepo := some { repo := { repoType := some .auto } }

/-- An update of the annotations. -/
def noted : TenantProperties where
  annotations := some (.ofList [("team", .string "red")])

/-- The tenant after the first update. -/
def managedTenant : Resource.Tenant :=
  { tenant with
    spec.gitRepoTemplate := some { RepoTemplate.managed "g" "r" with displayName := "t-1" } }

/-- The tenant after both. -/
def finishedTenant : Resource.Tenant :=
  { managedTenant with
    metadata.annotations := some (.ofList [("team", "red")]) }

theorem updates_repeat_and_swap_sample :
    (Cluster.take moved).result cluster = .ok movedCluster ∧
    (Cluster.take moved).result movedCluster = .ok movedCluster ∧
    Change.result (do Cluster.take moved; Cluster.take compiled) cluster = .ok finishedCluster ∧
    Change.result (do Cluster.take compiled; Cluster.take moved) cluster = .ok finishedCluster ∧
    (Tenant.take managed).result tenant = .ok managedTenant ∧
    (Tenant.take managed).result managedTenant = .ok managedTenant ∧
    Change.result (do Tenant.take managed; Tenant.take noted) tenant = .ok finishedTenant ∧
    Change.result (do Tenant.take noted; Tenant.take managed) tenant = .ok finishedTenant := by
  obtain ⟨hcluster, hclusters, htenant, htenants⟩ := updates_repeat_and_swap
  have hmoved : (Cluster.take moved).result cluster = .ok movedCluster := rfl
  have hmanaged : (Tenant.take managed).result tenant = .ok managedTenant := rfl
  have hfinished : Change.result (do Cluster.take moved; Cluster.take compiled) cluster =
      .ok finishedCluster := rfl
  have hnoted : Change.result (do Tenant.take managed; Tenant.take noted) tenant =
      .ok finishedTenant := rfl
  have hapart : ClusterProperties.layout.Apart moved compiled := by
    simp [Json.Layout.Apart, ClusterProperties.layout, Json.Field.optional, moved, compiled]
  have hapart' : TenantProperties.layout.Apart managed noted := by
    simp [Json.Layout.Apart, TenantProperties.layout, Json.Field.optional, managed, noted]
  exact ⟨hmoved, hcluster _ _ _ hmoved, hfinished, (hclusters _ _ hapart _ _).1 hfinished,
    hmanaged, htenant _ _ _ hmanaged, hnoted, (htenants _ _ hapart' _ _).1 hnoted⟩

end Exchange.Swapping
end Fleet

import Fleet.Exchange.Cluster
import Fleet.Exchange.Tenant
import Fleet.Proofs.Result

/-! # What taking over properties does

`Cluster.take` and `Tenant.take` are written as steps, each of which may fail.  Where they succeed
they set every part of an object on its own: `Cluster.result_take` and `Tenant.result_take` say to
what. -/

namespace Fleet.Exchange

open Record Resource

variable {ρ α : Type}

/-! ### Steps -/

namespace Change

theorem result_eq_ok_iff {c : Change ρ Unit} {r r' : ρ} :
    c.result r = .ok r' ↔ c.apply r = (.ok (), r') := by
  unfold result
  obtain ⟨outcome, s⟩ := c.apply r
  cases outcome <;> simp [Except.map]

theorem result_bind (c d : Change ρ Unit) (r : ρ) :
    Change.result (c >>= fun _ => d) r = c.result r >>= d.result := by
  simp only [result, apply, ExceptT.run_bind, StateT.run_bind]
  cases h : StateT.run (ExceptT.run c) r with
  | mk outcome s => cases outcome <;> rfl

theorem result_get_bind (f : ρ → Change ρ Unit) (r : ρ) :
    Change.result (get >>= f) r = (f r).result r := rfl

theorem result_modify (f : ρ → ρ) (r : ρ) :
    Change.result (modify f : Change ρ Unit) r = pure (f r) := rfl

theorem result_lift_bind (e : Except ChangeError α) (f : α → Change ρ Unit) (r : ρ) :
    Change.result ((liftM e : Change ρ α) >>= f) r = e >>= fun a => (f a).result r := by
  cases e <;> rfl

end Change

theorem result_take_bind (value : Option α) (set : α → ρ → ρ) (next : Change ρ Unit) (r : ρ) :
    Change.result (take value set >>= fun _ => next) r =
      next.result (value.elim r (fun a => set a r)) := by
  cases value <;> rfl

/-- Taking over the whole of a part: what is not given stays. -/
theorem result_take_part {set : α → ρ → ρ} (get : ρ → α) (value : Option α)
    (next : Change ρ Unit) {r : ρ} (h : set (get r) r = r) :
    Change.result (take value set >>= fun _ => next) r =
      next.result (set (value.getD (get r)) r) := by
  rw [result_take_bind]
  cases value with
  | none => exact congrArg next.result h.symm
  | some a => rfl

/-! ### Repositories -/

/-- The template of an object called `name` after a client named a repository, `url` being the URL
then in force. -/
def nextTemplate (repo : GitRepo) (url name : String) (template : Option RepoTemplate) :
    Except ChangeError (Option RepoTemplate) := do
  let template ← (updateTemplate template { repo with url := nonEmpty url } repo.url.isSome
    name).mapError .invalidRepoUrl
  match repo.deployKey with
  | none => return template
  | some key => return some (← addDeployKey template key)

/-- Once the template is worked out, a deploy key is added to it. -/
theorem nextTemplate_of_updateTemplate {repo : GitRepo} {url name : String}
    {template t : Option RepoTemplate}
    (h : updateTemplate template { repo with url := nonEmpty url } repo.url.isSome name = .ok t) :
    nextTemplate repo url name template =
      repo.deployKey.elim (.ok t) (fun words => (addDeployKey t words).map some) := by
  unfold nextTemplate
  rw [h]
  cases repo.deployKey with
  | none => rfl
  | some words =>
      change (addDeployKey t words >>= fun t => pure (some t)) = (addDeployKey t words).map some
      cases addDeployKey t words <;> rfl

theorem result_takeTemplate {repo : GitRepo} {url : ρ → String} {name : String}
    {get : ρ → Option RepoTemplate} {set : Option RepoTemplate → ρ → ρ}
    (hset : ∀ t u r, set t (set u r) = set t r) (r : ρ) :
    (takeTemplate repo url name get set).result r =
      (fun t => set t r) <$> nextTemplate repo (url r) name (get r) := by
  have hsteps : (takeTemplate repo url name get set).result r =
      (updateTemplate (get r) { repo with url := nonEmpty (url r) } repo.url.isSome
        name).mapError .invalidRepoUrl >>= fun t => Change.result (do
          modify (set t)
          match repo.deployKey with
          | none => pure ()
          | some key =>
            let t ← (addDeployKey t key : Except ChangeError RepoTemplate)
            modify (set (some t))) r := Change.result_lift_bind _ _ r
  rw [hsteps, nextTemplate, map_bind]
  apply bind_congr
  intro t
  rw [Change.result_bind, Change.result_modify, pure_bind]
  cases repo.deployKey with
  | none => rfl
  | some key =>
      refine (Change.result_lift_bind (addDeployKey t key) _ (set t r)).trans ?_
      simp only [map_bind, Change.result_modify, hset, map_pure]

/-- The template of an object after a client named a repository or none; `url` is the one that the
object had. -/
def templateAfter (repo : Option GitRepo) (url name : String) (template : Option RepoTemplate) :
    Except ChangeError (Option RepoTemplate) :=
  match repo with
  | none => .ok template
  | some repo => nextTemplate repo (repo.url.getD url) name template

/-! ### Clusters -/

namespace Cluster

/-- The observed state with the dynamic facts and the compile metadata that are given. -/
def statusAfter (facts : Option Facts) (m : Option CompileMeta) (status : Option ClusterStatus) :
    Option ClusterStatus :=
  if facts.isNone ∧ m.isNone then status
  else
    let s := status.getD {}
    some { s with
      facts := facts.elim s.facts encodeFacts
      compileMeta := m.or s.compileMeta }

/-- The cluster with the given properties, its template and compile metadata being worked out. -/
def amended (p : ClusterProperties) (template : Option RepoTemplate) (m : Option CompileMeta)
    (c : Resource.Cluster) : Resource.Cluster where
  metadata := { c.metadata with
    annotations := p.annotations.elim c.metadata.annotations (mergeTexts c.metadata.annotations) }
  spec := { c.spec with
    displayName := p.displayName.getD c.spec.displayName
    gitRepoUrl := (p.gitRepo.bind (·.url)).getD c.spec.gitRepoUrl
    gitHostKeys := (p.gitRepo.bind (·.hostKeys)).getD c.spec.gitHostKeys
    gitRepoTemplate := template
    facts := p.facts.elim c.spec.facts (fun facts => c.spec.facts.overlay facts.texts)
    globalGitRepoRevision := p.globalGitRepoRevision.getD c.spec.globalGitRepoRevision
    tenantGitRepoRevision := p.tenantGitRepoRevision.getD c.spec.tenantGitRepoRevision }
  status := statusAfter p.dynamicFacts m c.status

theorem facts_statusAfter (facts : Option Facts) (m : Option CompileMeta)
    (status : Option ClusterStatus) :
    ((statusAfter facts m status).getD {}).facts =
      facts.elim (status.getD {}).facts encodeFacts := by
  cases facts <;> cases m <;> rfl

theorem compileMeta_statusAfter (facts : Option Facts) (m : Option CompileMeta)
    (status : Option ClusterStatus) :
    (statusAfter facts m status).bind (·.compileMeta) = m.or (status.bind (·.compileMeta)) := by
  cases facts <;> cases m <;> cases status <;> rfl

/-- Taking properties over does not touch the bootstrap token. -/
theorem bootstrapToken_amended (p : ClusterProperties) (template : Option RepoTemplate)
    (m : Option CompileMeta) (c : Resource.Cluster) :
    (amended p template m c).bootstrapToken? = c.bootstrapToken? := by
  unfold amended statusAfter Resource.Cluster.bootstrapToken?
  dsimp only
  split
  · rfl
  · cases c.status <;> rfl

theorem result_takeRepo (name : String) (repo : GitRepo) (c : Resource.Cluster) :
    (takeRepo name repo).result c =
      (fun t => { c with spec := { c.spec with
        gitRepoUrl := repo.url.getD c.spec.gitRepoUrl
        gitHostKeys := repo.hostKeys.getD c.spec.gitHostKeys
        gitRepoTemplate := t } }) <$>
        nextTemplate repo (repo.url.getD c.spec.gitRepoUrl) name c.spec.gitRepoTemplate := by
  unfold takeRepo
  rw [result_take_part (fun c : Resource.Cluster => c.spec.gitRepoUrl) _ _ rfl,
    result_take_part (fun c : Resource.Cluster => c.spec.gitHostKeys) _ _ rfl, result_takeTemplate]
  · rfl
  · intro t u r; rfl

/-- The steps that concern the observed state. -/
theorem result_takeStatus (facts : Option Facts) (report : Option CompileReport)
    (c : Resource.Cluster) :
    Change.result (do
      Exchange.take facts (setStatus (fun v s => { s with facts := encodeFacts v }))
      match report with
      | some report =>
        let m ← (compileMeta report : Except ChangeError CompileMeta)
        modify (setStatus (fun v s => { s with compileMeta := some v }) m)
      | none => pure ()) c =
      (fun m => { c with status := statusAfter facts m c.status }) <$> report.mapM compileMeta := by
  rw [result_take_bind]
  cases report with
  | none => cases facts <;> rfl
  | some report =>
      refine (Change.result_lift_bind (compileMeta report) _ _).trans ?_
      rw [Option.mapM_some]
      cases compileMeta report with
      | error e => rfl
      | ok m => cases facts <;> rfl

theorem result_take (p : ClusterProperties) (c : Resource.Cluster) :
    (take p).result c = do
      let template ← templateAfter p.gitRepo c.spec.gitRepoUrl c.name c.spec.gitRepoTemplate
      let m ← p.compileMeta.mapM compileMeta
      return amended p template m c := by
  obtain ⟨displayName, annotations, facts, dynamicFacts, repo, global, tenant, _, report⟩ := p
  unfold take
  rw [Change.result_get_bind]
  dsimp only
  rw [result_take_part (fun c : Resource.Cluster => c.spec.displayName) _ _ rfl,
    result_take_bind, result_take_bind]
  cases repo with
  | none =>
      rw [result_take_part (fun c : Resource.Cluster => c.spec.globalGitRepoRevision) _ _ rfl,
        result_take_part (fun c : Resource.Cluster => c.spec.tenantGitRepoRevision) _ _ rfl]
      refine (result_takeStatus dynamicFacts report _).trans ?_
      rw [map_eq_pure_bind]
      refine bind_congr (fun m => congrArg pure ?_)
      cases annotations <;> cases facts <;> rfl
  | some repo =>
      dsimp only
      rw [Change.result_bind, result_takeRepo, map_eq_pure_bind, bind_assoc]
      cases annotations <;> cases facts
      all_goals
        apply bind_congr
        intro t
        rw [pure_bind,
          result_take_part (fun c : Resource.Cluster => c.spec.globalGitRepoRevision) _ _ rfl,
          result_take_part (fun c : Resource.Cluster => c.spec.tenantGitRepoRevision) _ _ rfl]
        refine (result_takeStatus dynamicFacts report _).trans ?_
        rw [map_eq_pure_bind]
        rfl

theorem result_take_of {p : ClusterProperties} {c : Resource.Cluster}
    {template : Option RepoTemplate} {m : Option CompileMeta}
    (htemplate : templateAfter p.gitRepo c.spec.gitRepoUrl c.name c.spec.gitRepoTemplate =
      .ok template) (hm : p.compileMeta.mapM compileMeta = .ok m) :
    (take p).result c = .ok (amended p template m c) := by
  rw [result_take, htemplate, hm]
  rfl

theorem exists_of_result_take {p : ClusterProperties} {c c' : Resource.Cluster}
    (h : (take p).result c = .ok c') : ∃ template m,
      templateAfter p.gitRepo c.spec.gitRepoUrl c.name c.spec.gitRepoTemplate = .ok template ∧
      p.compileMeta.mapM compileMeta = .ok m ∧ c' = amended p template m c := by
  rw [result_take] at h
  obtain ⟨template, ht, h⟩ := Result.exists_of_bind h
  obtain ⟨m, hm, h⟩ := Result.exists_of_bind h
  exact ⟨template, m, ht, hm, (Except.ok.inj h).symm⟩

/-- Taking properties over changes neither the name nor the revision. -/
theorem name_of_result_take {p : ClusterProperties} {c c' : Resource.Cluster}
    (h : (take p).result c = .ok c') : c'.name = c.name := by
  obtain ⟨template, m, -, -, rfl⟩ := exists_of_result_take h
  rfl

theorem revision_of_result_take {p : ClusterProperties} {c c' : Resource.Cluster}
    (h : (take p).result c = .ok c') : c'.metadata.revision = c.metadata.revision := by
  obtain ⟨template, m, -, -, rfl⟩ := exists_of_result_take h
  rfl

theorem bootstrapToken_of_result_take {p : ClusterProperties} {c c' : Resource.Cluster}
    (h : (take p).result c = .ok c') : c'.bootstrapToken? = c.bootstrapToken? := by
  obtain ⟨template, m, -, -, rfl⟩ := exists_of_result_take h
  exact bootstrapToken_amended p template m c

end Cluster

/-! ### Tenants -/

namespace Tenant

/-- The tenant with the given properties, its template being worked out. -/
def amended (p : TenantProperties) (template : Option RepoTemplate) (t : Resource.Tenant) :
    Resource.Tenant where
  metadata := { t.metadata with
    annotations := p.annotations.elim t.metadata.annotations (mergeTexts t.metadata.annotations) }
  spec := {
    displayName := p.displayName.getD t.spec.displayName
    gitRepoUrl := (p.gitRepo.bind (·.repo.url)).getD t.spec.gitRepoUrl
    gitRepoRevision := (p.gitRepo.bind (·.revision)).getD t.spec.gitRepoRevision
    globalGitRepoUrl := p.globalGitRepoUrl.getD t.spec.globalGitRepoUrl
    globalGitRepoRevision := p.globalGitRepoRevision.getD t.spec.globalGitRepoRevision
    gitRepoTemplate := template }

theorem result_takeRepo (name : String) (r : RevisionedGitRepo) (t : Resource.Tenant) :
    (takeRepo name r).result t =
      (fun template => { t with spec := { t.spec with
        gitRepoUrl := r.repo.url.getD t.spec.gitRepoUrl
        gitRepoRevision := r.revision.getD t.spec.gitRepoRevision
        gitRepoTemplate := template } }) <$>
        nextTemplate r.repo (r.repo.url.getD t.spec.gitRepoUrl) name t.spec.gitRepoTemplate := by
  unfold takeRepo
  rw [result_take_part (fun t : Resource.Tenant => t.spec.gitRepoUrl) _ _ rfl,
    result_take_part (fun t : Resource.Tenant => t.spec.gitRepoRevision) _ _ rfl,
    result_takeTemplate]
  · rfl
  · intro t u r; rfl

theorem result_take (p : TenantProperties) (t : Resource.Tenant) :
    (take p).result t = do
      let template ← templateAfter (p.gitRepo.map (·.repo)) t.spec.gitRepoUrl t.name
        t.spec.gitRepoTemplate
      return amended p template t := by
  obtain ⟨displayName, annotations, repo, url, revision⟩ := p
  unfold take
  rw [Change.result_get_bind]
  dsimp only
  rw [result_take_part (fun t : Resource.Tenant => t.spec.displayName) _ _ rfl, result_take_bind]
  cases repo with
  | none =>
      rw [result_take_part (fun t : Resource.Tenant => t.spec.globalGitRepoUrl) _ _ rfl]
      cases annotations <;> cases revision <;> rfl
  | some repo =>
      dsimp only
      rw [Change.result_bind, result_takeRepo, map_eq_pure_bind, bind_assoc]
      cases annotations
      all_goals
        apply bind_congr
        intro template
        rw [pure_bind,
          result_take_part (fun t : Resource.Tenant => t.spec.globalGitRepoUrl) _ _ rfl]
        cases revision <;> rfl

theorem result_take_of {p : TenantProperties} {t : Resource.Tenant}
    {template : Option RepoTemplate}
    (htemplate : templateAfter (p.gitRepo.map (·.repo)) t.spec.gitRepoUrl t.name
      t.spec.gitRepoTemplate = .ok template) :
    (take p).result t = .ok (amended p template t) := by
  rw [result_take, htemplate]
  rfl

theorem exists_of_result_take {p : TenantProperties} {t t' : Resource.Tenant}
    (h : (take p).result t = .ok t') : ∃ template,
      templateAfter (p.gitRepo.map (·.repo)) t.spec.gitRepoUrl t.name t.spec.gitRepoTemplate =
        .ok template ∧ t' = amended p template t := by
  rw [result_take] at h
  obtain ⟨template, ht, h⟩ := Result.exists_of_bind h
  exact ⟨template, ht, (Except.ok.inj h).symm⟩

/-- Taking properties over changes neither the name nor the revision. -/
theorem name_of_result_take {p : TenantProperties} {t t' : Resource.Tenant}
    (h : (take p).result t = .ok t') : t'.name = t.name := by
  obtain ⟨template, -, rfl⟩ := exists_of_result_take h
  rfl

theorem revision_of_result_take {p : TenantProperties} {t t' : Resource.Tenant}
    (h : (take p).result t = .ok t') : t'.metadata.revision = t.metadata.revision := by
  obtain ⟨template, -, rfl⟩ := exists_of_result_take h
  rfl

end Tenant
end Fleet.Exchange

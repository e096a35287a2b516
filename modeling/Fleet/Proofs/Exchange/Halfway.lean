import Fleet.Proofs.Exchange.Coherence

/-! # How far a change comes

A change that fails half-way leaves behind what its steps did before.  For the properties of a
client there are only two such places, the repository and the compile report, and what is left
behind is described like a success: by `amended`, for the properties that were reached
(`Cluster.exists_of_apply_take`, `Tenant.exists_of_apply_take`).  Of a repository template a change
spares what no client may set, again wherever it stops (`Spares`). -/

namespace Fleet.Exchange

open Record Resource

variable {ρ α : Type}

/-! ### Steps -/

namespace Change

/-- A step that succeeds is followed by the others, and one that fails is the last. -/
theorem apply_bind (c d : Change ρ Unit) (r : ρ) :
    Change.apply (c >>= fun _ => d) r =
      match c.apply r with
      | (.ok _, s) => d.apply s
      | (.error e, s) => (.error e, s) := by
  simp only [apply, ExceptT.run_bind, StateT.run_bind]
  cases h : StateT.run (ExceptT.run c) r with
  | mk outcome s => cases outcome <;> rfl

theorem apply_get_bind (f : ρ → Change ρ Unit) (r : ρ) :
    Change.apply (get >>= f) r = (f r).apply r := rfl

theorem apply_modify (f : ρ → ρ) (r : ρ) :
    Change.apply (modify f : Change ρ Unit) r = (.ok (), f r) := rfl

theorem apply_lift_ok {e : Except ChangeError α} {a : α} (h : e = .ok a) (f : α → Change ρ Unit)
    (r : ρ) : Change.apply ((liftM e : Change ρ α) >>= f) r = (f a).apply r := by
  subst h
  rfl

theorem apply_lift_error {e : Except ChangeError α} {err : ChangeError} (h : e = .error err)
    (f : α → Change ρ Unit) (r : ρ) :
    Change.apply ((liftM e : Change ρ α) >>= f) r = (.error err, r) := by
  subst h
  rfl

end Change

theorem apply_take_bind (value : Option α) (set : α → ρ → ρ) (next : Change ρ Unit) (r : ρ) :
    Change.apply (take value set >>= fun _ => next) r =
      next.apply (value.elim r (fun a => set a r)) := by
  cases value <;> rfl

theorem apply_take_part {set : α → ρ → ρ} (get : ρ → α) (value : Option α)
    (next : Change ρ Unit) {r : ρ} (h : set (get r) r = r) :
    Change.apply (take value set >>= fun _ => next) r =
      next.apply (set (value.getD (get r)) r) := by
  rw [apply_take_bind]
  cases value with
  | none => exact congrArg next.apply h.symm
  | some a => rfl

/-! ### Templates -/

/-- What a client names of a repository apart from the keys that its server is known by. -/
def namedRepo (repo : Option GitRepo) : Option GitRepo :=
  repo.bind (fun r => GitRepo.nonEmpty { r with hostKeys := none })

/-- What a change that names `repo` leaves of a template. -/
structure KeptTemplate (repo : Option GitRepo) (t t' : RepoTemplate) : Prop where
  apiSecretRef : t'.apiSecretRef = t.apiSecretRef
  displayName : t.displayName ≠ "" → t'.displayName = t.displayName
  /-- Deploy keys are kept, but for the one that clients may set, unless the client wants the
  repository left alone. -/
  deployKeys :
    t'.deployKeys = t.deployKeys ∨
    (∃ words type key, repo.bind (·.deployKey) = some words ∧
      readDeployKey words = some (type, key) ∧
      t'.deployKeys = t.deployKeys.insert deployKeyName ⟨type, key, true⟩) ∨
    repo.bind (·.repoType) = some .unmanaged ∧ t'.deployKeys = .empty

/-- The template after a change that names `repo`, whether or not the change succeeded. -/
structure Spares (repo : Option GitRepo) (template template' : Option RepoTemplate) : Prop where
  unnamed : namedRepo repo = none → template' = template
  kept : ∀ t, template = some t → ∃ t', template' = some t' ∧ KeptTemplate repo t t'

theorem KeptTemplate.refl (repo : Option GitRepo) (t : RepoTemplate) : KeptTemplate repo t t :=
  ⟨rfl, fun _ => rfl, Or.inl rfl⟩

theorem Spares.refl (repo : Option GitRepo) (template : Option RepoTemplate) :
    Spares repo template template :=
  ⟨fun _ => rfl, fun t ht => ⟨t, ht, .refl repo t⟩⟩

theorem namedRepo_eq_none_iff {repo : GitRepo} :
    namedRepo (some repo) = none ↔
      repo.url = none ∧ repo.repoType = none ∧ repo.deployKey = none := by
  obtain ⟨url, hostKeys, type, key⟩ := repo
  unfold namedRepo GitRepo.nonEmpty
  rw [Option.bind_some]
  simp

theorem eq_of_namedRepo_eq_some {repo named : GitRepo} (h : namedRepo (some repo) = some named) :
    named = { repo with hostKeys := none } := by
  unfold namedRepo GitRepo.nonEmpty at h
  rw [Option.bind_some] at h
  split at h
  · cases h
  · exact (Option.some.inj h).symm

/-- Only a client who wants a repository left alone gets a template that is. -/
theorem repoType_of_resolveRepo {repo : GitRepo} {name : String} {t : RepoTemplate}
    (h : resolveRepo repo name = .ok (some t)) (hleft : t.isManaged = false) :
    repo.repoType = some .unmanaged := by
  unfold resolveRepo at h
  split at h
  · next htype => exact htype
  · split at h
    · split at h <;> cases h
    · obtain ⟨_, -, h⟩ := Result.exists_of_bind h
      cases h
      cases hleft

/-- A template that has been worked out anew keeps its deploy keys while it is managed. -/
theorem kept_of_updateTemplate {repo : GitRepo} {url name : String} {t : RepoTemplate}
    {template : Option RepoTemplate} {urlGiven : Bool}
    (h : updateTemplate (some t) { repo with url := nonEmpty url } urlGiven name = .ok template) :
    ∃ t', template = some t' ∧ KeptTemplate (some repo) t t' ∧
      (t'.isManaged = true → t'.deployKeys = t.deployKeys) := by
  have hsame : ∃ t', some t = some t' ∧ KeptTemplate (some repo) t t' ∧
      (t'.isManaged = true → t'.deployKeys = t.deployKeys) :=
    ⟨t, rfl, .refl _ t, fun _ => rfl⟩
  unfold updateTemplate at h
  dsimp only at h
  split at h
  · cases h
    exact hsame
  · obtain ⟨resolved, hresolve, h⟩ := Result.exists_of_bind h
    cases resolved with
    | none =>
        cases h
        exact hsame
    | some resolved =>
        dsimp only at h
        split at h
        · cases h
          refine ⟨_, rfl, ⟨rfl, fun hne => ?_, Or.inl rfl⟩, fun _ => rfl⟩
          exact if_neg (fun hempty => hne (String.isEmpty_iff.1 hempty))
        · next hleft =>
            cases h
            have htype := repoType_of_resolveRepo hresolve (Bool.eq_false_iff.2 hleft)
            refine ⟨_, rfl, ⟨rfl, fun _ => rfl, Or.inr (Or.inr ⟨htype, rfl⟩)⟩, ?_⟩
            intro hmanaged
            cases hmanaged

theorem addDeployKey_eq_ok {template : Option RepoTemplate} {words : String} {t' : RepoTemplate}
    (h : addDeployKey template words = .ok t') : ∃ t type key,
      template = some t ∧ t.isManaged = true ∧ readDeployKey words = some (type, key) ∧
      t' = { t with deployKeys := t.deployKeys.insert deployKeyName ⟨type, key, true⟩ } := by
  unfold addDeployKey at h
  split at h
  · cases h
  · next type key hread =>
      split at h
      · next t =>
          split at h
          · next hmanaged => exact ⟨t, type, key, rfl, hmanaged, hread, (Except.ok.inj h).symm⟩
          · cases h
      · cases h

theorem spares_of_updateTemplate {repo : GitRepo} {url name : String}
    {template template' : Option RepoTemplate}
    (h : updateTemplate template { repo with url := nonEmpty url } repo.url.isSome name =
      .ok template') : Spares (some repo) template template' := by
  constructor
  · intro hnone
    obtain ⟨hurl, htype, -⟩ := namedRepo_eq_none_iff.1 hnone
    unfold updateTemplate at h
    simpa [hurl, htype, pure, Except.pure, eq_comm] using h
  · rintro t rfl
    obtain ⟨t', rfl, hkept, -⟩ := kept_of_updateTemplate h
    exact ⟨t', rfl, hkept⟩

/-- The deploy key is added to a template that has just been worked out. -/
theorem spares_of_addDeployKey {repo : GitRepo} {url name words : String}
    {template template' : Option RepoTemplate} {t' : RepoTemplate}
    (h : updateTemplate template { repo with url := nonEmpty url } repo.url.isSome name =
      .ok template') (hwords : repo.deployKey = some words)
    (hadd : addDeployKey template' words = .ok t') : Spares (some repo) template (some t') := by
  constructor
  · intro hnone
    rw [(namedRepo_eq_none_iff.1 hnone).2.2] at hwords
    cases hwords
  · rintro t rfl
    obtain ⟨t₁, rfl, hkept, hkeys⟩ := kept_of_updateTemplate h
    obtain ⟨t₂, type, key, heq, hmanaged, hread, rfl⟩ := addDeployKey_eq_ok hadd
    cases heq
    refine ⟨_, rfl, ⟨hkept.apiSecretRef, hkept.displayName, Or.inr (Or.inl ?_)⟩⟩
    refine ⟨words, type, key, hwords, hread, ?_⟩
    dsimp only
    rw [hkeys hmanaged]

theorem spares_of_apply_takeTemplate {repo : GitRepo} {url : ρ → String} {name : String}
    {get : ρ → Option RepoTemplate} {set : Option RepoTemplate → ρ → ρ}
    (hget : ∀ r, set (get r) r = r) (hset : ∀ t u r, set t (set u r) = set t r) (r : ρ) :
    ∃ template, ((takeTemplate repo url name get set).apply r).2 = set template r ∧
      Spares (some repo) (get r) template := by
  cases hupdate : updateTemplate (get r) { repo with url := nonEmpty (url r) } repo.url.isSome
    name with
  | error e =>
      have hsteps : (takeTemplate repo url name get set).apply r = (.error (.invalidRepoUrl e), r) :=
        Change.apply_lift_error (congrArg (Except.mapError ChangeError.invalidRepoUrl) hupdate) _ r
      rw [hsteps]
      exact ⟨get r, (hget r).symm, .refl _ _⟩
  | ok t =>
      have hsteps : (takeTemplate repo url name get set).apply r = _ :=
        Change.apply_lift_ok (congrArg (Except.mapError ChangeError.invalidRepoUrl) hupdate) _ r
      have hspares := spares_of_updateTemplate hupdate
      rw [hsteps, Change.apply_bind, Change.apply_modify]
      dsimp only
      cases hwords : repo.deployKey with
      | none => exact ⟨t, rfl, hspares⟩
      | some words =>
          dsimp only
          cases hadd : addDeployKey t words with
          | error e =>
              rw [Change.apply_lift_error rfl]
              exact ⟨t, rfl, hspares⟩
          | ok t' =>
              rw [Change.apply_lift_ok rfl]
              exact ⟨some t', hset _ _ _, spares_of_addDeployKey hupdate hwords hadd⟩

/-! ### Clusters -/

namespace Cluster

/-- The properties that are taken over up to the repository. -/
def upToRepo (p : ClusterProperties) : ClusterProperties :=
  { p with dynamicFacts := none, globalGitRepoRevision := none, tenantGitRepoRevision := none }

theorem exists_of_apply_takeRepo (name : String) (repo : GitRepo) (c : Resource.Cluster) :
    ∃ template, ((takeRepo name repo).apply c).2 = { c with spec := { c.spec with
        gitRepoUrl := repo.url.getD c.spec.gitRepoUrl
        gitHostKeys := repo.hostKeys.getD c.spec.gitHostKeys
        gitRepoTemplate := template } } ∧ Spares (some repo) c.spec.gitRepoTemplate template := by
  unfold takeRepo
  rw [apply_take_part (fun c : Resource.Cluster => c.spec.gitRepoUrl) _ _ rfl,
    apply_take_part (fun c : Resource.Cluster => c.spec.gitHostKeys) _ _ rfl]
  obtain ⟨template, htemplate, hspares⟩ := @spares_of_apply_takeTemplate Resource.Cluster repo
    (·.spec.gitRepoUrl) name (·.spec.gitRepoTemplate)
    (setSpec (fun v s => { s with gitRepoTemplate := v })) (fun _ => rfl) (fun _ _ _ => rfl)
    { c with spec := { c.spec with
      gitRepoUrl := repo.url.getD c.spec.gitRepoUrl
      gitHostKeys := repo.hostKeys.getD c.spec.gitHostKeys } }
  exact ⟨template, htemplate, hspares⟩

/-- The steps that concern the observed state. -/
theorem exists_of_apply_takeStatus (facts : Option Facts) (report : Option CompileReport)
    (c : Resource.Cluster) :
    ∃ m, (Change.apply (do
      Exchange.take facts (setStatus (fun v s => { s with facts := encodeFacts v }))
      match report with
      | some report =>
        let m ← (compileMeta report : Except ChangeError CompileMeta)
        modify (setStatus (fun v s => { s with compileMeta := some v }) m)
      | none => pure ()) c).2 = { c with status := statusAfter facts m c.status } ∧
      (report = none → m = none) := by
  rw [apply_take_bind]
  cases report with
  | none => exact ⟨none, by cases facts <;> rfl, fun _ => rfl⟩
  | some report =>
      dsimp only
      cases hm : compileMeta report with
      | error e =>
          rw [Change.apply_lift_error rfl]
          exact ⟨none, by cases facts <;> rfl, fun _ => rfl⟩
      | ok m =>
          rw [Change.apply_lift_ok rfl]
          exact ⟨some m, by cases facts <;> rfl, fun h => nomatch h⟩

theorem exists_of_apply_take (p : ClusterProperties) (c : Resource.Cluster) :
    ∃ q template m, ((take p).apply c).2 = amended q template m c ∧ (q = p ∨ q = upToRepo p) ∧
      Spares p.gitRepo c.spec.gitRepoTemplate template ∧ (p.compileMeta = none → m = none) := by
  obtain ⟨displayName, annotations, facts, dynamicFacts, repo, global, tenant, url, report⟩ := p
  unfold take
  rw [Change.apply_get_bind]
  dsimp only
  rw [apply_take_part (fun c : Resource.Cluster => c.spec.displayName) _ _ rfl,
    apply_take_bind, apply_take_bind]
  cases repo with
  | none =>
      rw [apply_take_part (fun c : Resource.Cluster => c.spec.globalGitRepoRevision) _ _ rfl,
        apply_take_part (fun c : Resource.Cluster => c.spec.tenantGitRepoRevision) _ _ rfl]
      obtain ⟨m, hstatus, hm⟩ := exists_of_apply_takeStatus dynamicFacts report _
      refine ⟨_, c.spec.gitRepoTemplate, m, hstatus.trans ?_, Or.inl rfl, .refl _ _, hm⟩
      cases annotations <;> cases facts <;> rfl
  | some repo =>
      dsimp only
      rw [Change.apply_bind]
      -- what the steps before the repository leave does not matter to it, but for its template
      generalize hearly : facts.elim _ _ = early
      have hspec : early.spec.gitRepoTemplate = c.spec.gitRepoTemplate := by
        subst hearly
        cases annotations <;> cases facts <;> rfl
      obtain ⟨template, hrepo, hspares⟩ := exists_of_apply_takeRepo c.name repo early
      rw [hspec] at hspares
      split
      · next c' happly =>
          rw [happly] at hrepo
          dsimp only at hrepo
          subst hrepo
          rw [apply_take_part (fun c : Resource.Cluster => c.spec.globalGitRepoRevision) _ _ rfl,
            apply_take_part (fun c : Resource.Cluster => c.spec.tenantGitRepoRevision) _ _ rfl]
          obtain ⟨m, hstatus, hm⟩ := exists_of_apply_takeStatus dynamicFacts report _
          refine ⟨_, template, m, hstatus.trans ?_, Or.inl rfl, hspares, hm⟩
          subst hearly
          cases annotations <;> cases facts <;> rfl
      · next c' happly =>
          rw [happly] at hrepo
          refine ⟨_, template, none, hrepo.trans ?_, Or.inr rfl, hspares, fun _ => rfl⟩
          subst hearly
          cases annotations <;> cases facts <;> rfl

end Cluster

/-! ### Tenants -/

namespace Tenant

/-- The properties that are taken over up to the repository. -/
def upToRepo (p : TenantProperties) : TenantProperties :=
  { p with globalGitRepoUrl := none, globalGitRepoRevision := none }

theorem exists_of_apply_takeRepo (name : String) (r : RevisionedGitRepo) (t : Resource.Tenant) :
    ∃ template, ((takeRepo name r).apply t).2 = { t with spec := { t.spec with
        gitRepoUrl := r.repo.url.getD t.spec.gitRepoUrl
        gitRepoRevision := r.revision.getD t.spec.gitRepoRevision
        gitRepoTemplate := template } } ∧ Spares (some r.repo) t.spec.gitRepoTemplate template := by
  unfold takeRepo
  rw [apply_take_part (fun t : Resource.Tenant => t.spec.gitRepoUrl) _ _ rfl,
    apply_take_part (fun t : Resource.Tenant => t.spec.gitRepoRevision) _ _ rfl]
  obtain ⟨template, htemplate, hspares⟩ := @spares_of_apply_takeTemplate Resource.Tenant r.repo
    (·.spec.gitRepoUrl) name (·.spec.gitRepoTemplate)
    (setSpec (fun v s => { s with gitRepoTemplate := v })) (fun _ => rfl) (fun _ _ _ => rfl)
    { t with spec := { t.spec with
      gitRepoUrl := r.repo.url.getD t.spec.gitRepoUrl
      gitRepoRevision := r.revision.getD t.spec.gitRepoRevision } }
  exact ⟨template, htemplate, hspares⟩

theorem exists_of_apply_take (p : TenantProperties) (t : Resource.Tenant) :
    ∃ q template, ((take p).apply t).2 = amended q template t ∧ (q = p ∨ q = upToRepo p) ∧
      Spares (p.gitRepo.map (·.repo)) t.spec.gitRepoTemplate template := by
  obtain ⟨displayName, annotations, repo, url, revision⟩ := p
  unfold take
  rw [Change.apply_get_bind]
  dsimp only
  rw [apply_take_part (fun t : Resource.Tenant => t.spec.displayName) _ _ rfl, apply_take_bind]
  cases repo with
  | none =>
      rw [apply_take_part (fun t : Resource.Tenant => t.spec.globalGitRepoUrl) _ _ rfl]
      refine ⟨_, t.spec.gitRepoTemplate, ?_, Or.inl rfl, .refl _ _⟩
      cases annotations <;> cases revision <;> rfl
  | some r =>
      dsimp only
      rw [Change.apply_bind]
      generalize hearly : annotations.elim _ _ = early
      have hspec : early.spec.gitRepoTemplate = t.spec.gitRepoTemplate := by
        subst hearly
        cases annotations <;> rfl
      obtain ⟨template, hrepo, hspares⟩ := exists_of_apply_takeRepo t.name r early
      rw [hspec] at hspares
      split
      · next t' happly =>
          rw [happly] at hrepo
          dsimp only at hrepo
          subst hrepo
          rw [apply_take_part (fun t : Resource.Tenant => t.spec.globalGitRepoUrl) _ _ rfl]
          refine ⟨_, template, ?_, Or.inl rfl, hspares⟩
          subst hearly
          cases annotations <;> cases revision <;> rfl
      · next t' happly =>
          rw [happly] at hrepo
          refine ⟨_, template, hrepo.trans ?_, Or.inr rfl, hspares⟩
          subst hearly
          cases annotations <;> rfl

end Tenant
end Fleet.Exchange

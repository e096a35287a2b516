import Fleet.Proofs.Dict
import Fleet.Proofs.Exchange.Take
import Fleet.Proofs.Text.Split

/-! # Coherent repositories

The template of a stored object is derived from its repository URL.  `Coherent` says that it fits:
there is a template where there is a URL, and while the repository is managed the template holds
path and name of just this URL.  Taking over whatever a client names keeps it so, be it the URL
alone, the type alone, or a deploy key (`Coherent.templateAfter`). -/

namespace Fleet.Exchange

open Record Resource

/-- A deploy key that clients may have set. -/
structure IsClientKey (name : String) (k : DeployKey) : Prop where
  named : name = deployKeyName
  keyType : k.keyType ≠ "" ∧ ' ' ∉ k.keyType.toList
  key : k.key ≠ "" ∧ ' ' ∉ k.key.toList
  writes : k.writeAccess = true

/-- A repository template that an object called `name` may have. -/
structure FitsName (name : String) (t : RepoTemplate) : Prop where
  /-- A repository that is left alone has no path, no name and no deploy keys. -/
  leftAlone : t.isManaged = false → t.path = "" ∧ t.repoName = "" ∧ t.deployKeys = .empty
  deployKeys : ∀ key k, t.deployKeys.get? key = some k → IsClientKey key k
  shown : t.displayName = name ∨ t.isManaged = false ∧ t.displayName = ""

/-- The template of an object called `name` fits its repository URL. -/
structure Coherent (url name : String) (template : Option RepoTemplate) : Prop where
  present : url ≠ "" → template.isSome
  fits : ∀ t, template = some t → FitsName name t
  derived : ∀ t, template = some t → t.isManaged = true → url ≠ "" →
    splitRepoUrl url = .ok (t.path, t.repoName)

/-! ### Deploy keys -/

/-- A deploy key is two words with one blank between them. -/
theorem readDeployKey_eq_some_iff {s type key : String} :
    readDeployKey s = some (type, key) ↔
      (type ≠ "" ∧ ' ' ∉ type.toList) ∧ (key ≠ "" ∧ ' ' ∉ key.toList) ∧
        s = type ++ " " ++ key := by
  unfold readDeployKey
  rw [Text.splitOn_eq_splitOnP, ← List.splitOn_eq_splitOnP]
  have hjoin : ∀ t k : List Char, [' '].intercalate [t, k] = t ++ ' ' :: k := by
    intro t k
    rw [List.intercalate_cons_cons, List.intercalate_singleton, List.append_assoc]
    rfl
  constructor
  · intro h
    split at h
    · next t k hsplit =>
        split at h
        · cases h
        · next hempty =>
            cases h
            rw [Bool.or_eq_true, not_or, List.isEmpty_iff, List.isEmpty_iff] at hempty
            have hs : [' '].intercalate (s.toList.splitOn ' ') = s.toList := List.intercalate_splitOn ' '
            rw [hsplit, hjoin] at hs
            have hpart : ∀ part ∈ [t, k], ' ' ∉ (String.ofList part).toList := by
              intro part hpart
              rw [String.toList_ofList]
              exact Text.not_mem_of_mem_splitOn (hsplit ▸ hpart)
            have hne : ∀ part : List Char, part ≠ [] → String.ofList part ≠ "" := by
              intro part hpart heq
              have := congrArg String.toList heq
              rw [String.toList_ofList] at this
              exact hpart this
            refine ⟨⟨hne t hempty.1, hpart t (by simp)⟩, ⟨hne k hempty.2, hpart k (by simp)⟩, ?_⟩
            apply String.toList_inj.1
            simp [← hs]
    · cases h
  · rintro ⟨⟨htype, htype'⟩, ⟨hkey, hkey'⟩, rfl⟩
    have hsplit : (type ++ " " ++ key).toList.splitOn ' ' = [type.toList, key.toList] := by
      have : ([' '].intercalate [type.toList, key.toList]).splitOn ' ' = [type.toList, key.toList] :=
        List.splitOn_intercalate ' ' (by simp [htype', hkey']) (List.cons_ne_nil _ _)
      rw [hjoin] at this
      simpa using this
    rw [hsplit]
    have hne : ∀ s : String, s ≠ "" → s.toList.isEmpty = false := by
      intro s hs
      rw [List.isEmpty_eq_false_iff]
      exact fun h => hs (String.toList_inj.1 h)
    simp [hne type htype, hne key hkey]

theorem isClientKey_of_readDeployKey {s type key : String}
    (h : readDeployKey s = some (type, key)) : IsClientKey deployKeyName ⟨type, key, true⟩ := by
  obtain ⟨htype, hkey, -⟩ := readDeployKey_eq_some_iff.1 h
  exact ⟨rfl, htype, hkey, rfl⟩

theorem Coherent.addDeployKey {url name key : String} {template : Option RepoTemplate}
    {t : RepoTemplate} (h : Coherent url name template)
    (hok : Exchange.addDeployKey template key = .ok t) : Coherent url name (some t) := by
  unfold Exchange.addDeployKey at hok
  split at hok
  · cases hok
  · next type key hread =>
      split at hok
      · next old =>
          split at hok
          · next hmanaged =>
              cases hok
              have hfits := h.fits old rfl
              refine ⟨fun _ => rfl, ?_, ?_⟩
              · intro t ht
                cases ht
                refine ⟨?_, ?_, hfits.shown⟩
                · intro hleft
                  exact absurd (hmanaged.symm.trans hleft) (by decide)
                · intro name' k hk
                  dsimp only at hk
                  rw [Dict.get?_insert] at hk
                  split at hk
                  · next hname =>
                      cases hk
                      exact hname ▸ isClientKey_of_readDeployKey hread
                  · exact hfits.deployKeys name' k hk
              · intro t ht _ hurl
                cases ht
                exact h.derived old rfl hmanaged hurl
          · cases hok
      · cases hok

/-! ### Templates -/

/-- What a repository resolves to: one that is left alone, nothing, or a managed one with the path
and name of its URL. -/
theorem resolveRepo_eq_ok {repo : GitRepo} {name : String} {resolved : Option RepoTemplate}
    (h : resolveRepo repo name = .ok resolved) :
    resolved = some .unmanaged ∨
      repo.url.bind nonEmpty = none ∧ resolved = none ∨
      ∃ url path repoName, repo.url.bind nonEmpty = some url ∧
        splitRepoUrl url = .ok (path, repoName) ∧
        resolved = some { RepoTemplate.managed path repoName with displayName := name } := by
  unfold resolveRepo at h
  split at h
  · exact Or.inl (Except.ok.inj h).symm
  · split at h
    · next hnone =>
        split at h
        · exact Or.inr (Or.inl ⟨hnone, (Except.ok.inj h).symm⟩)
        · cases h
    · next url hsome =>
        obtain ⟨⟨path, repoName⟩, hsplit, h⟩ := Result.exists_of_bind h
        exact Or.inr (Or.inr ⟨url, path, repoName, hsome, hsplit, (Except.ok.inj h).symm⟩)

theorem nonEmpty_eq_some_iff {s t : String} : nonEmpty s = some t ↔ s ≠ "" ∧ t = s := by
  unfold nonEmpty
  by_cases h : s.isEmpty
  · rw [if_pos h]
    simp [String.isEmpty_iff.1 h]
  · rw [if_neg h]
    have hne : s ≠ "" := fun heq => h (String.isEmpty_iff.2 heq)
    simp [hne, eq_comm]

theorem nonEmpty_eq_none_iff {s : String} : nonEmpty s = none ↔ s = "" := by
  unfold nonEmpty
  by_cases h : s.isEmpty
  · rw [if_pos h]
    simp [String.isEmpty_iff.1 h]
  · rw [if_neg h]
    have hne : s ≠ "" := fun heq => h (String.isEmpty_iff.2 heq)
    simp [hne]

theorem bind_nonEmpty (s : String) : (nonEmpty s).bind nonEmpty = nonEmpty s := by
  cases h : nonEmpty s with
  | none => rfl
  | some t =>
      obtain ⟨-, rfl⟩ := nonEmpty_eq_some_iff.1 h
      exact h

/-- A template that is left alone fits any URL. -/
theorem Coherent.of_leftAlone {old url name : String} {template : Option RepoTemplate}
    (h : Coherent old name template) (hleft : template.any (fun t => !t.isManaged) = true) :
    Coherent url name template := by
  cases template with
  | none => cases hleft
  | some t =>
      have hleft : t.isManaged = false := by simpa using hleft
      refine ⟨fun _ => rfl, h.fits, ?_⟩
      intro t' ht' hmanaged _
      cases ht'
      exact absurd (hmanaged.symm.trans hleft) (by decide)

/-- Without a URL there is nothing to derive. -/
theorem Coherent.of_noUrl {old name : String} {template : Option RepoTemplate}
    (h : Coherent old name template) : Coherent "" name template :=
  ⟨fun hurl => absurd rfl hurl, h.fits, fun _ _ _ hurl => absurd rfl hurl⟩

/-- A template made to be left alone. -/
theorem coherent_unmanaged {url name : String} {t : RepoTemplate}
    (hshown : t.displayName = name ∨ t.displayName = "") :
    Coherent url name (some { t with
      repoType := .unmanaged, path := "", repoName := "", deployKeys := .empty }) := by
  refine ⟨fun _ => rfl, ?_, ?_⟩
  · intro t' ht'
    cases ht'
    refine ⟨fun _ => ⟨rfl, rfl, rfl⟩, ?_, ?_⟩
    · intro key k hk
      cases hk
    · exact hshown.imp_right (fun h => ⟨rfl, h⟩)
  · intro t' ht' hmanaged
    cases ht'
    cases hmanaged

/-- A template made for a URL. -/
theorem coherent_managed {url name path repoName : String} {t : RepoTemplate}
    (hsplit : splitRepoUrl url = .ok (path, repoName))
    (hkeys : ∀ key k, t.deployKeys.get? key = some k → IsClientKey key k) :
    Coherent url name (some { t with
      repoType := .auto, path := path, repoName := repoName, displayName := name }) := by
  refine ⟨fun _ => rfl, ?_, ?_⟩
  · intro t' ht'
    cases ht'
    exact ⟨fun hleft => (by cases hleft), hkeys, Or.inl rfl⟩
  · intro t' ht' _ _
    cases ht'
    exact hsplit

theorem FitsName.shown' {name : String} {t : RepoTemplate} (h : FitsName name t) :
    t.displayName = name ∨ t.displayName = "" := h.shown.imp_right And.right

theorem Coherent.updateTemplate {old url name : String} {template t' : Option RepoTemplate}
    {repo : GitRepo} {urlGiven : Bool} (h : Coherent old name template)
    (hurl : urlGiven = false → url = old)
    (hok : Exchange.updateTemplate template { repo with url := nonEmpty url } urlGiven name =
      .ok t') : Coherent url name t' := by
  unfold Exchange.updateTemplate at hok
  dsimp only at hok
  split at hok
  · next hstays =>
      cases hok
      rw [Bool.or_eq_true, Bool.and_eq_true] at hstays
      rcases hstays with ⟨-, hleft⟩ | hnone
      · exact h.of_leftAlone hleft
      · have hurl := hurl (by simp at hnone; exact hnone.2)
        exact hurl ▸ h
  · obtain ⟨resolved, hresolve, hchanged⟩ := Result.exists_of_bind hok
    clear hok
    rcases resolveRepo_eq_ok hresolve with rfl | ⟨hnone, rfl⟩ |
      ⟨u, path, repoName, hsome, hsplit, rfl⟩
    · cases template with
      | none =>
          cases hchanged
          exact coherent_unmanaged (t := .unmanaged) (Or.inr rfl)
      | some t =>
          cases hchanged
          exact coherent_unmanaged (h.fits t rfl).shown'
    · cases hchanged
      rw [bind_nonEmpty] at hnone
      exact nonEmpty_eq_none_iff.1 hnone ▸ h.of_noUrl
    · rw [bind_nonEmpty] at hsome
      obtain rfl := (nonEmpty_eq_some_iff.1 hsome).2
      cases template with
      | none =>
          cases hchanged
          exact coherent_managed (t := {}) hsplit (fun key k hk => by cases hk)
      | some t =>
          have hfits := h.fits t rfl
          have hshown : (if t.displayName.isEmpty then name else t.displayName) = name := by
            split
            · rfl
            · next hne =>
                rcases hfits.shown' with hname | hempty
                · exact hname
                · exact absurd (String.isEmpty_iff.2 hempty) hne
          cases hchanged
          dsimp only
          rw [hshown]
          exact coherent_managed hsplit hfits.deployKeys

/-- Whatever a client names of a repository, the template fits the URL then in force. -/
theorem Coherent.nextTemplate {old name : String} {template t' : Option RepoTemplate}
    {repo : GitRepo} (h : Coherent old name template)
    (hok : Exchange.nextTemplate repo (repo.url.getD old) name template = .ok t') :
    Coherent (repo.url.getD old) name t' := by
  obtain ⟨t, ht, hok⟩ := Result.exists_of_bind hok
  have hurl : repo.url.isSome = false → repo.url.getD old = old := by
    intro hgiven
    rw [Option.isSome_eq_false_iff, Option.isNone_iff_eq_none] at hgiven
    rw [hgiven, Option.getD_none]
  have hcoherent := h.updateTemplate hurl (Result.mapError_eq_ok_iff.1 ht)
  cases hkey : repo.deployKey with
  | none =>
      rw [hkey] at hok
      cases hok
      exact hcoherent
  | some key =>
      rw [hkey] at hok
      obtain ⟨t'', hadd, hok⟩ := Result.exists_of_bind hok
      cases hok
      exact hcoherent.addDeployKey hadd

theorem Coherent.templateAfter {old name : String} {template t' : Option RepoTemplate}
    {repo : Option GitRepo} (h : Coherent old name template)
    (hok : Exchange.templateAfter repo old name template = .ok t') :
    Coherent ((repo.bind (·.url)).getD old) name t' := by
  cases repo with
  | none =>
      cases hok
      exact h
  | some repo => exact h.nextTemplate hok

/-! ### Objects -/

/-- Without URL and template there is nothing to fit. -/
theorem coherent_none (name : String) : Coherent "" name none :=
  ⟨fun hurl => absurd rfl hurl, fun _ ht => (by cases ht), fun _ ht => (by cases ht)⟩

namespace Cluster

/-- The repository template of a cluster fits. -/
def IsCoherent (c : Resource.Cluster) : Prop :=
  Coherent c.spec.gitRepoUrl c.name c.spec.gitRepoTemplate

theorem IsCoherent.take {p : ClusterProperties} {c c' : Resource.Cluster} (h : IsCoherent c)
    (hok : (Cluster.take p).result c = .ok c') : IsCoherent c' := by
  obtain ⟨template, m, htemplate, -, rfl⟩ := exists_of_result_take hok
  exact Coherent.templateAfter h htemplate

end Cluster

namespace Tenant

/-- The repository template of a tenant fits. -/
def IsCoherent (t : Resource.Tenant) : Prop :=
  Coherent t.spec.gitRepoUrl t.name t.spec.gitRepoTemplate

theorem IsCoherent.take {p : TenantProperties} {t t' : Resource.Tenant} (h : IsCoherent t)
    (hok : (Tenant.take p).result t = .ok t') : IsCoherent t' := by
  obtain ⟨template, htemplate, rfl⟩ := exists_of_result_take hok
  have hcoherent := Coherent.templateAfter h htemplate
  have hurl : (p.gitRepo.map (·.repo)).bind (·.url) = p.gitRepo.bind (·.repo.url) := by
    cases p.gitRepo <;> rfl
  rw [hurl] at hcoherent
  exact hcoherent

/-- The tenant with a secret for the git host, if there is one and its repository is managed. -/
def withSecret (secret : Option String) (t : Resource.Tenant) : Resource.Tenant :=
  match secret with
  | none => t
  | some secret => { t with
      spec.gitRepoTemplate := t.spec.gitRepoTemplate.map (fun r =>
        if r.isManaged then { r with apiSecretRef.name := secret } else r) }

/-- The tenant with a repository of its own. -/
def withOwnRepo (path : String) (t : Resource.Tenant) : Resource.Tenant :=
  { t with
    spec.gitRepoTemplate :=
      some { RepoTemplate.managed path t.name with displayName := t.name } }

theorem result_complete (d : Defaults) (t : Resource.Tenant) : (complete d).result t =
    if t.spec.gitRepoUrl.isEmpty then
      match d.repoPath, t.spec.gitRepoTemplate with
      | some path, none => .ok (withSecret d.apiSecretRefName (withOwnRepo path t))
      | _, _ => .error .missingRepoUrl
    else .ok (withSecret d.apiSecretRefName t) := by
  obtain ⟨secret, path⟩ := d
  unfold complete
  rw [Change.result_get_bind]
  by_cases hurl : t.spec.gitRepoUrl.isEmpty = true
  · rw [if_pos hurl]
    dsimp only
    rw [if_pos hurl]
    cases path with
    | none => rfl
    | some path =>
        cases t.spec.gitRepoTemplate with
        | none => cases secret <;> rfl
        | some _ => rfl
  · rw [if_neg hurl]
    dsimp only
    rw [if_neg hurl]
    cases secret <;> rfl

/-- Completing a tenant leaves its metadata alone. -/
theorem metadata_of_result_complete {d : Defaults} {t t' : Resource.Tenant}
    (h : (complete d).result t = .ok t') : t'.metadata = t.metadata := by
  have hsecret : ∀ (secret : Option String) (t : Resource.Tenant),
      (withSecret secret t).metadata = t.metadata := by
    intro secret t
    cases secret <;> rfl
  rw [result_complete] at h
  split at h
  · split at h
    · cases h
      exact hsecret _ _
    · cases h
  · cases h
    exact hsecret _ _

/-- The secret for the git host does not matter. -/
theorem coherent_map_secret {url name secret : String} {template : Option RepoTemplate}
    (h : Coherent url name template) : Coherent url name (template.map (fun r =>
      if r.isManaged then { r with apiSecretRef.name := secret } else r)) := by
  cases template with
  | none => exact h
  | some r =>
      rw [Option.map_some]
      by_cases hmanaged : r.isManaged
      · rw [if_pos hmanaged]
        have hfits := h.fits r rfl
        refine ⟨fun _ => rfl, ?_, ?_⟩
        · intro t' ht'
          cases ht'
          exact ⟨hfits.leftAlone, hfits.deployKeys, hfits.shown⟩
        · intro t' ht'
          cases ht'
          exact h.derived r rfl
      · rw [if_neg hmanaged]
        exact h

theorem IsCoherent.withSecret {t : Resource.Tenant} (h : IsCoherent t) (secret : Option String) :
    IsCoherent (withSecret secret t) := by
  cases secret with
  | none => exact h
  | some secret => exact coherent_map_secret h

theorem isCoherent_withOwnRepo {t : Resource.Tenant} (hurl : t.spec.gitRepoUrl = "")
    (path : String) : IsCoherent (withOwnRepo path t) := by
  refine ⟨fun hne => absurd hurl hne, fun t' ht' => ?_, fun t' ht' _ hne => absurd hurl hne⟩
  cases ht'
  exact ⟨fun hleft => (by cases hleft), fun _ _ hk => (by cases hk), Or.inl rfl⟩

theorem IsCoherent.complete {d : Defaults} {t t' : Resource.Tenant} (h : IsCoherent t)
    (hok : (Tenant.complete d).result t = .ok t') : IsCoherent t' := by
  rw [result_complete] at hok
  split at hok
  · next hempty =>
      split at hok
      · cases hok
        exact (isCoherent_withOwnRepo (String.isEmpty_iff.1 hempty) _).withSecret _
      · cases hok
  · cases hok
    exact h.withSecret _

end Tenant
end Fleet.Exchange

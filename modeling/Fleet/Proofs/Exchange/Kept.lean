import Fleet.Proofs.Exchange.Merge

/-! # Records laid over nothing

A new object starts from a blank one, so that what clients see of it is the record that they gave,
laid over nothing.  `Record.Cluster.IsKept` and `Record.Tenant.IsKept` say of which records all comes
out of this as it went in.  What is lost otherwise: an empty text, map or repository, which stands
for none; a fact that is no text where only texts are kept; a missing type of a repository, which is
made up for; and of a compile report whatever has no place in compile metadata. -/

namespace Fleet

open Json Exchange

/-! ### What is kept -/

namespace Facts

/-- Facts that are texts only, and at least one of them. -/
structure IsTexts (facts : Facts) : Prop where
  nonempty : facts ≠ .empty
  texts : ∀ name v, facts.get? name = some v → ∃ s, v = .string s

end Facts

namespace Record

/-- A report in normal form: the one that is shown of the compile metadata stored for it. -/
def CompileReport.IsNormal (report : CompileReport) : Prop :=
  ∃ m, Cluster.compileMeta report = .ok m ∧ Cluster.compileReport m = .ok report

/-- A repository that names something, nothing of it empty, and its type with its URL. -/
structure GitRepo.IsKept (repo : GitRepo) : Prop where
  nonempty : repo ≠ {}
  url : repo.url ≠ some ""
  hostKeys : repo.hostKeys ≠ some ""
  type : repo.url.isSome → repo.repoType.isSome

/-- A cluster of which nothing is lost when it is stored. -/
structure Cluster.IsKept (c : Record.Cluster) : Prop where
  id : Ident.clusterStart.toList <+: c.id.toList
  displayName : c.properties.displayName ≠ some ""
  globalRevision : c.properties.globalGitRepoRevision ≠ some ""
  tenantRevision : c.properties.tenantGitRepoRevision ≠ some ""
  annotations : ∀ facts, c.properties.annotations = some facts → facts.IsTexts
  facts : ∀ facts, c.properties.facts = some facts → facts.IsTexts
  dynamicFacts : c.properties.dynamicFacts ≠ some .empty
  gitRepo : ∀ repo, c.properties.gitRepo = some repo → repo.IsKept
  installUrl : c.properties.installUrl = none
  compileMeta : ∀ report, c.properties.compileMeta = some report → report.IsNormal

/-- A repository with a revision that names something, nothing of it empty, and its type with its
URL. -/
structure RevisionedGitRepo.IsKept (r : RevisionedGitRepo) : Prop where
  nonempty : r ≠ {}
  url : r.repo.url ≠ some ""
  hostKeys : r.repo.hostKeys ≠ some ""
  deployKey : r.repo.deployKey ≠ some ""
  revision : r.revision ≠ some ""
  type : r.repo.url.isSome → r.repo.repoType.isSome

/-- A tenant of which nothing is lost when it is stored, its host keys apart. -/
structure Tenant.IsKept (t : Record.Tenant) : Prop where
  id : Ident.tenantStart.toList <+: t.id.toList
  displayName : t.properties.displayName ≠ some ""
  globalUrl : t.properties.globalGitRepoUrl ≠ some ""
  globalRevision : t.properties.globalGitRepoRevision ≠ some ""
  annotations : ∀ facts, t.properties.annotations = some facts → facts.IsTexts
  gitRepo : ∀ repo, t.properties.gitRepo = some repo → repo.IsKept

/-- The tenant without the keys that its git server is known by. -/
def Tenant.withoutHostKeys (t : Record.Tenant) : Record.Tenant :=
  { t with properties.gitRepo := t.properties.gitRepo.bind (fun r =>
      RevisionedGitRepo.nonEmpty { r with repo.hostKeys := none }) }

end Record

/-- What stands for itself unless it is blank. -/
theorem someUnless_eq_some_iff {α : Type} [DecidableEq α] {a b blank : α} :
    (if a = blank then none else some a) = some b ↔ a = b ∧ b ≠ blank := by
  by_cases h : a = blank
  · rw [if_pos h]
    constructor
    · intro heq
      cases heq
    · rintro ⟨rfl, hne⟩
      exact absurd h hne
  · rw [if_neg h, Option.some.injEq]
    constructor
    · rintro rfl
      exact ⟨rfl, h⟩
    · exact And.left

/-! ### Facts -/

namespace Facts

theorem nonEmpty_eq_some_iff {facts facts' : Facts} :
    nonEmpty facts = some facts' ↔ facts = facts' ∧ facts' ≠ .empty := by
  unfold nonEmpty
  simp only [Dict.isEmpty_iff_eq_empty]
  exact someUnless_eq_some_iff

/-- Keeping the texts keeps everything, if there is nothing else. -/
theorem map_texts_eq_iff {facts : Facts} :
    facts.texts.map .string = facts ↔ ∀ name v, facts.get? name = some v → ∃ s, v = .string s := by
  have hget : ∀ name, (facts.texts.map Value.string).get? name =
      ((facts.get? name).bind Fact.text?).map .string := by
    intro name
    unfold texts
    rw [Dict.get?_map, Dict.get?_filterMap]
  constructor
  · intro h name v hv
    have hsame := hget name
    rw [h, hv, Option.bind_some] at hsame
    obtain ⟨s, -, hs⟩ := Option.map_eq_some_iff.1 hsame.symm
    exact ⟨s, hs.symm⟩
  · intro h
    apply Dict.ext_get?
    intro name
    rw [hget]
    cases hv : facts.get? name with
    | none => rfl
    | some v =>
        obtain ⟨s, rfl⟩ := h name v hv
        rfl

theorem merge_none_eq_iff {given : Option Facts} :
    merge none given = given ↔ ∀ facts, given = some facts → facts.IsTexts := by
  cases given with
  | none => exact ⟨fun _ _ h => (by cases h), fun _ => rfl⟩
  | some facts =>
      have hmerge : merge none (some facts) = nonEmpty (facts.texts.map .string) := by
        refine congrArg nonEmpty (Dict.ext_get? (fun name => ?_))
        rw [Dict.get?_overlay]
        exact Option.or_none
      rw [hmerge, nonEmpty_eq_some_iff, map_texts_eq_iff]
      constructor
      · rintro ⟨htexts, hne⟩ facts' h
        cases h
        exact ⟨hne, htexts⟩
      · intro h
        obtain ⟨hne, htexts⟩ := h facts rfl
        exact ⟨htexts, hne⟩

theorem replace_none_eq_iff {given : Option Facts} :
    replace none given = given ↔ given ≠ some .empty := by
  cases given with
  | none => exact ⟨fun _ h => (by cases h), fun _ => rfl⟩
  | some facts =>
      refine (@nonEmpty_eq_some_iff facts facts).trans ?_
      exact ⟨fun h heq => h.2 (Option.some.inj heq), fun h => ⟨rfl, fun heq => h (congrArg some heq)⟩⟩

end Facts

/-! ### Repositories -/

theorem Record.GitRepo.nonEmpty_eq_some_iff {repo repo' : Record.GitRepo} :
    Record.GitRepo.nonEmpty repo = some repo' ↔ repo = repo' ∧ repo' ≠ {} := someUnless_eq_some_iff

theorem Record.RevisionedGitRepo.nonEmpty_eq_some_iff {repo repo' : Record.RevisionedGitRepo} :
    Record.RevisionedGitRepo.nonEmpty repo = some repo' ↔ repo = repo' ∧ repo' ≠ {} :=
  someUnless_eq_some_iff

namespace Exchange

open Record

theorem mergeText_none_eq_iff {given : Option String} :
    mergeText none given = given ↔ given ≠ some "" := by
  cases given with
  | none => exact ⟨fun _ h => (by cases h), fun _ => rfl⟩
  | some s =>
      change nonEmpty s = some s ↔ _
      rw [nonEmpty_eq_some_iff]
      exact ⟨fun h heq => h.1 (Option.some.inj heq), fun h => ⟨fun heq => h (congrArg some heq), rfl⟩⟩

/-- The type that a new repository has: one with a URL is managed if the client does not say. -/
def newType (repo : GitRepo) : Option RepoType :=
  repo.repoType.or (if (repo.url.bind nonEmpty).isSome then some .auto else none)

theorem eq_of_mergeRepo_blank {repo merged : GitRepo} (h : mergeRepo {} repo = .ok merged) :
    merged = {
      url := mergeText none repo.url
      hostKeys := mergeText none repo.hostKeys
      repoType := newType repo
      deployKey := repo.deployKey } := by
  obtain ⟨_, -, h⟩ := Result.exists_of_bind h
  obtain ⟨_, -, h⟩ := Result.exists_of_bind h
  cases h
  unfold mergeType mergeDeployKey newType
  simp

theorem newType_eq_iff {repo : GitRepo} (hurl : repo.url ≠ some "") :
    newType repo = repo.repoType ↔ (repo.url.isSome → repo.repoType.isSome) := by
  have hsome : repo.url.bind nonEmpty = repo.url := by
    have hsame := mergeText_none_eq_iff.2 hurl
    cases hrepo : repo.url with
    | none => rfl
    | some url =>
        rw [hrepo] at hsame
        exact hsame
  unfold newType
  rw [hsome]
  cases repo.repoType <;> cases repo.url <;> simp

theorem mergeGitRepo_none_eq_iff {given merged : Option GitRepo}
    (h : mergeGitRepo none given = .ok merged) :
    merged = given ↔ ∀ repo, given = some repo → repo.IsKept := by
  cases given with
  | none =>
      cases h
      exact ⟨fun _ _ h => (by cases h), fun _ => rfl⟩
  | some repo =>
      obtain ⟨merged, hmerged, rfl⟩ := Result.exists_of_map h
      rw [GitRepo.nonEmpty_eq_some_iff, eq_of_mergeRepo_blank hmerged]
      have hparts : ∀ r : GitRepo, r = repo ↔ r.url = repo.url ∧ r.hostKeys = repo.hostKeys ∧
          r.repoType = repo.repoType ∧ r.deployKey = repo.deployKey := by
        intro r
        obtain ⟨url, hostKeys, type, deployKey⟩ := repo
        cases r
        simp
      rw [hparts, mergeText_none_eq_iff, mergeText_none_eq_iff]
      constructor
      · rintro ⟨⟨hurl, hkeys, htype, -⟩, hne⟩ repo' heq
        cases heq
        exact ⟨hne, hurl, hkeys, (newType_eq_iff hurl).1 htype⟩
      · intro hkept
        obtain ⟨hne, hurl, hkeys, htype⟩ := hkept repo rfl
        exact ⟨⟨hurl, hkeys, (newType_eq_iff hurl).2 htype, rfl⟩, hne⟩

/-- Of the repository of a tenant all but the host keys is kept. -/
theorem eq_of_mergeRevisionedGitRepo_none {given merged : Option RevisionedGitRepo}
    (h : mergeRevisionedGitRepo none given = .ok merged)
    (hkept : ∀ repo, given = some repo → repo.IsKept) :
    merged = given.bind (fun r => RevisionedGitRepo.nonEmpty { r with repo.hostKeys := none }) := by
  cases given with
  | none =>
      cases h
      rfl
  | some r =>
      obtain ⟨repo, hrepo, rfl⟩ := Result.exists_of_map h
      obtain ⟨-, hurl, -, -, hrevision, htype⟩ := hkept r rfl
      rw [eq_of_mergeRepo_blank hrepo, mergeText_none_eq_iff.2 hurl, (newType_eq_iff hurl).2 htype]
      dsimp only [Option.getD]
      rw [mergeText_none_eq_iff.2 hrevision]
      rfl

/-! ### Compile reports -/

/-- The normal form of a report is what is shown of it. -/
theorem isNormal_iff {report : CompileReport} {m : Resource.CompileMeta}
    (h : Cluster.compileMeta report = .ok m) : report.IsNormal ↔ report.normal = report := by
  have hshown := Cluster.compileReport_of_compileMeta h
  constructor
  · rintro ⟨m', hm', hreport⟩
    rw [h] at hm'
    cases hm'
    exact Except.ok.inj (hshown.symm.trans hreport)
  · intro hnormal
    rw [hnormal] at hshown
    exact ⟨m, h, hshown⟩

theorem mergeReport_none_eq_iff {given merged : Option CompileReport}
    (h : mergeReport none given = .ok merged) :
    merged = given ↔ ∀ report, given = some report → report.IsNormal := by
  cases given with
  | none =>
      cases h
      exact ⟨fun _ _ h => (by cases h), fun _ => rfl⟩
  | some report =>
      obtain ⟨m, hm, rfl⟩ := Result.exists_of_map h
      rw [Option.some.injEq, ← isNormal_iff hm]
      constructor
      · intro hnormal report' heq
        cases heq
        exact hnormal
      · intro hnormal
        exact hnormal report rfl

/-! ### Records -/

/-- A cluster laid over nothing is itself just if all of it is kept. -/
theorem Cluster.merge_blank_eq_iff {id : String} {c merged : Record.Cluster}
    (hid : id = c.id ↔ Ident.clusterStart.toList <+: c.id.toList)
    (h : Cluster.merge { id := id, tenant := c.tenant } c.properties = .ok merged) :
    merged = c ↔ c.IsKept := by
  obtain ⟨repo, hrepo, h⟩ := Result.exists_of_bind h
  obtain ⟨report, hreport, h⟩ := Result.exists_of_bind h
  cases h
  have hrepo := mergeGitRepo_none_eq_iff hrepo
  have hreport := mergeReport_none_eq_iff hreport
  obtain ⟨cid, tenant, ⟨displayName, annotations, facts, dynamicFacts, gitRepo, globalRevision,
    tenantRevision, installUrl, compileMeta⟩⟩ := c
  simp only [Record.Cluster.mk.injEq, ClusterProperties.mk.injEq, true_and]
  rw [hid, mergeText_none_eq_iff, Facts.merge_none_eq_iff, Facts.merge_none_eq_iff,
    Facts.replace_none_eq_iff, hrepo, mergeText_none_eq_iff, mergeText_none_eq_iff, hreport]
  constructor
  · rintro ⟨hid, hname, hannotations, hfacts, hdynamic, hrepo, hglobal, htenant, hurl, hreport⟩
    exact ⟨hid, hname, hglobal, htenant, hannotations, hfacts, hdynamic, hrepo, hurl.symm, hreport⟩
  · rintro ⟨hid, hname, hglobal, htenant, hannotations, hfacts, hdynamic, hrepo, hurl, hreport⟩
    exact ⟨hid, hname, hannotations, hfacts, hdynamic, hrepo, hglobal, htenant, hurl.symm, hreport⟩

/-- A tenant that is kept, laid over nothing, is itself without its host keys. -/
theorem Tenant.merge_blank_eq {t merged : Record.Tenant} (hkept : t.IsKept)
    (h : Tenant.merge { id := t.id } t.properties = .ok merged) : merged = t.withoutHostKeys := by
  obtain ⟨repo, hrepo, h⟩ := Result.exists_of_bind h
  cases h
  obtain ⟨-, hname, hurl, hrevision, hannotations, hgitRepo⟩ := hkept
  rw [eq_of_mergeRevisionedGitRepo_none hrepo hgitRepo, mergeText_none_eq_iff.2 hname,
    mergeText_none_eq_iff.2 hurl, mergeText_none_eq_iff.2 hrevision,
    Facts.merge_none_eq_iff.2 hannotations]
  rfl

theorem withoutHostKeys_eq_iff {t : Record.Tenant} (hkept : t.IsKept) :
    t.withoutHostKeys = t ↔
      ∀ repo, t.properties.gitRepo = some repo → repo.repo.hostKeys = none := by
  obtain ⟨-, -, -, -, -, hrepo⟩ := hkept
  obtain ⟨id, ⟨displayName, annotations, gitRepo, url, revision⟩⟩ := t
  unfold Tenant.withoutHostKeys
  simp only [Record.Tenant.mk.injEq, TenantProperties.mk.injEq, true_and, and_true]
  cases gitRepo with
  | none => exact ⟨fun _ _ h => (by cases h), fun _ => rfl⟩
  | some r =>
      rw [Option.bind_some, RevisionedGitRepo.nonEmpty_eq_some_iff]
      constructor
      · rintro ⟨hsame, -⟩ repo heq
        cases heq
        exact congrArg (fun r => r.repo.hostKeys) hsame.symm
      · intro hkeys
        have hnone : r.repo.hostKeys = none := hkeys r rfl
        obtain ⟨⟨url, hostKeys, type, deployKey⟩, revision⟩ := r
        cases hnone
        exact ⟨rfl, (hrepo _ rfl).nonempty⟩

end Exchange
end Fleet

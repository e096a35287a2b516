import Fleet.Proofs.Exchange.Halfway

/-! # A partial update touches only what it names

An update names some properties of a cluster or tenant, and may be refused when some of them have
been taken over already.  Either way what it does not name is as before: the parts of the object
that belong to other properties, the annotations and facts under other names, what the store and
the git controller own, and the bootstrap token.  Where it succeeds, each part comes out of its own
old value and of what the update gives for it (`take_touches_named`). -/

namespace Fleet.Exchange

open Record Resource

/-! ### Parts of objects -/

/-- A part of the objects of a kind that clients may set, and what properties give for it. -/
structure Part (ρ π : Type) where
  Stored : Type
  Given : Type
  stored : ρ → Stored
  given : π → Option Given

/-- The new value of a part depends only on its old value, on what is given for it, and on the name
of the object. -/
def Part.IsLocal {ρ π : Type} (part : Part ρ π) (name : ρ → String) (take : π → Change ρ Unit) :
    Prop :=
  ∀ p q r s r' s', (take p).result r = .ok r' → (take q).result s = .ok s' → name r = name s →
    part.given p = part.given q → part.stored r = part.stored s → part.stored r' = part.stored s'

/-- The text that is given under a name. -/
def givenText? (facts : Option Facts) (key : String) : Option String :=
  (facts.bind (·.get? key)).bind Fact.text?

/-- The annotation of an object under a name. -/
def annotation? (m : Metadata) (key : String) : Option String := m.annotations.bind (·.get? key)

namespace Cluster

/-- The parts of a cluster.  Its repository stands for the URL and the template together, and its
observed state for the dynamic facts, the compile metadata, and whether anything is observed. -/
def parts : List (Part Resource.Cluster ClusterProperties) := [
  ⟨_, _, (·.spec.displayName), (·.displayName)⟩,
  ⟨_, _, (·.metadata.annotations), (·.annotations)⟩,
  ⟨_, _, (·.spec.facts), (·.facts)⟩,
  ⟨_, _, (·.spec.gitRepoUrl), (·.gitRepo.bind (·.url))⟩,
  ⟨_, _, (·.spec.gitHostKeys), (·.gitRepo.bind (·.hostKeys))⟩,
  ⟨_, _, fun c => (c.spec.gitRepoUrl, c.spec.gitRepoTemplate), fun p => namedRepo p.gitRepo⟩,
  ⟨_, _, (·.spec.globalGitRepoRevision), (·.globalGitRepoRevision)⟩,
  ⟨_, _, (·.spec.tenantGitRepoRevision), (·.tenantGitRepoRevision)⟩,
  ⟨_, _, fun c => (c.status.getD {}).facts, (·.dynamicFacts)⟩,
  ⟨_, _, (·.status.bind (·.compileMeta)), (·.compileMeta)⟩,
  ⟨_, _, (·.status), fun p =>
    if p.dynamicFacts.isNone ∧ p.compileMeta.isNone then none
    else some (p.dynamicFacts, p.compileMeta)⟩]

/-- Of the cluster `c` only what `p` names has changed in `c'`. -/
structure TouchesNamed (p : ClusterProperties) (c c' : Resource.Cluster) : Prop where
  unnamed : ∀ part ∈ parts, part.given p = none → part.stored c' = part.stored c
  /-- Name, labels, revision and whatever else the store keeps of an object. -/
  metadata : c'.metadata = { c.metadata with annotations := c'.metadata.annotations }
  tenantRef : c'.spec.tenantRef = c.spec.tenantRef
  bootstrapToken : c'.bootstrapToken? = c.bootstrapToken?
  annotations : ∀ key, givenText? p.annotations key = none →
    annotation? c'.metadata key = annotation? c.metadata key
  facts : ∀ key, givenText? p.facts key = none → c'.spec.facts.get? key = c.spec.facts.get? key
  template : ∀ t, c.spec.gitRepoTemplate = some t →
    ∃ t', c'.spec.gitRepoTemplate = some t' ∧ KeptTemplate p.gitRepo t t'

end Cluster

namespace Tenant

/-- The parts of a tenant. -/
def parts : List (Part Resource.Tenant TenantProperties) := [
  ⟨_, _, (·.spec.displayName), (·.displayName)⟩,
  ⟨_, _, (·.metadata.annotations), (·.annotations)⟩,
  ⟨_, _, (·.spec.gitRepoUrl), (·.gitRepo.bind (·.repo.url))⟩,
  ⟨_, _, (·.spec.gitRepoRevision), (·.gitRepo.bind (·.revision))⟩,
  ⟨_, _, fun t => (t.spec.gitRepoUrl, t.spec.gitRepoTemplate),
    fun p => namedRepo (p.gitRepo.map (·.repo))⟩,
  ⟨_, _, (·.spec.globalGitRepoUrl), (·.globalGitRepoUrl)⟩,
  ⟨_, _, (·.spec.globalGitRepoRevision), (·.globalGitRepoRevision)⟩]

/-- Of the tenant `t` only what `p` names has changed in `t'`. -/
structure TouchesNamed (p : TenantProperties) (t t' : Resource.Tenant) : Prop where
  unnamed : ∀ part ∈ parts, part.given p = none → part.stored t' = part.stored t
  metadata : t'.metadata = { t.metadata with annotations := t'.metadata.annotations }
  annotations : ∀ key, givenText? p.annotations key = none →
    annotation? t'.metadata key = annotation? t.metadata key
  template : ∀ r, t.spec.gitRepoTemplate = some r →
    ∃ r', t'.spec.gitRepoTemplate = some r' ∧ KeptTemplate (p.gitRepo.map (·.repo)) r r'

end Tenant

/-! ### Texts -/

theorem get?_texts (facts : Facts) (key : String) :
    facts.texts.get? key = (facts.get? key).bind Fact.text? := Dict.get?_filterMap ..

theorem get?_overlay_texts {facts : Facts} {key : String} (d : Dict String)
    (h : givenText? (some facts) key = none) : (d.overlay facts.texts).get? key = d.get? key := by
  rw [Dict.get?_overlay, get?_texts]
  unfold givenText? at h
  rw [Option.bind_some] at h
  rw [h, Option.none_or]

theorem get?_mergeTexts {facts : Facts} {key : String} (d : Option (Dict String))
    (h : givenText? (some facts) key = none) :
    (mergeTexts d facts).bind (·.get? key) = d.bind (·.get? key) := by
  unfold mergeTexts
  split
  · rfl
  · rw [Option.bind_some, get?_overlay_texts _ h]
    cases d <;> rfl

/-! ### Repositories -/

/-- The keys of the server have no part in the template. -/
theorem templateAfter_namedRepo (repo : Option GitRepo) (url name : String)
    (template : Option RepoTemplate) :
    templateAfter repo url name template = templateAfter (namedRepo repo) url name template := by
  cases repo with
  | none => rfl
  | some repo =>
      cases hnamed : namedRepo (some repo) with
      | none =>
          obtain ⟨hurl, htype, hkey⟩ := namedRepo_eq_none_iff.1 hnamed
          obtain ⟨_, hostKeys, _, _⟩ := repo
          cases hurl
          cases htype
          cases hkey
          have hstays : updateTemplate template ⟨nonEmpty url, hostKeys, none, none⟩ false name =
              .ok template := by
            unfold updateTemplate
            exact if_pos (by simp)
          change (updateTemplate template ⟨nonEmpty url, hostKeys, none, none⟩ false
            name).mapError ChangeError.invalidRepoUrl >>= _ = _
          rw [hstays]
          rfl
      | some named =>
          cases eq_of_namedRepo_eq_some hnamed
          rfl

theorem url_namedRepo (repo : Option GitRepo) :
    (namedRepo repo).bind (·.url) = repo.bind (·.url) := by
  cases repo with
  | none => rfl
  | some repo =>
      cases hnamed : namedRepo (some repo) with
      | none => exact (namedRepo_eq_none_iff.1 hnamed).1.symm
      | some named =>
          cases eq_of_namedRepo_eq_some hnamed
          rfl

/-- Two changes that name the same of a repository turn the same URL and template into the same. -/
theorem repository_eq {repo repo' : Option GitRepo} {url url' name : String}
    {template template' t t' : Option RepoTemplate}
    (ht : templateAfter repo url name template = .ok t)
    (ht' : templateAfter repo' url' name template' = .ok t') (hrepo : namedRepo repo = namedRepo repo')
    (hold : (url, template) = (url', template')) :
    ((repo.bind (·.url)).getD url, t) = ((repo'.bind (·.url)).getD url', t') := by
  cases hold
  rw [templateAfter_namedRepo, hrepo, ← templateAfter_namedRepo, ht'] at ht
  cases ht
  rw [← url_namedRepo repo, hrepo, url_namedRepo]

/-! ### Clusters -/

namespace Cluster

/-- A part that is not named stays, wherever the change stopped. -/
theorem stored_amended {p q : ClusterProperties} {template : Option RepoTemplate}
    {m : Option CompileMeta} {c : Resource.Cluster} (hq : q = p ∨ q = upToRepo p)
    (hspares : Spares p.gitRepo c.spec.gitRepoTemplate template)
    (hm : p.compileMeta = none → m = none) :
    ∀ part ∈ parts, part.given p = none → part.stored (amended q template m c) = part.stored c := by
  simp only [parts, List.forall_mem_cons]
  refine ⟨?displayName, ?annotations, ?facts, ?url, ?hostKeys, ?repository, ?global, ?tenant,
    ?dynamicFacts, ?compileMeta, ?status, fun _ h => nomatch h⟩ <;> intro hnone
  case repository =>
    have hurl : q.gitRepo.bind (·.url) = none := by
      have hurl : p.gitRepo.bind (·.url) = none := by
        rw [← url_namedRepo, hnone]
        rfl
      rcases hq with rfl | rfl <;> exact hurl
    rw [hspares.unnamed hnone]
    unfold amended
    rw [hurl]
    rfl
  case compileMeta =>
    rw [hm hnone]
    exact (compileMeta_statusAfter _ _ _).trans Option.none_or
  case status =>
    split at hnone
    · next h =>
        have hfacts : q.dynamicFacts = none := by
          rcases hq with rfl | rfl
          · exact Option.isNone_iff_eq_none.1 h.1
          · rfl
        rw [hm (Option.isNone_iff_eq_none.1 h.2)]
        unfold amended
        rw [hfacts]
        rfl
    · cases hnone
  all_goals rcases hq with rfl | rfl <;> simp [amended, upToRepo, facts_statusAfter, hnone]

theorem touchesNamed_apply_take (p : ClusterProperties) (c : Resource.Cluster) :
    TouchesNamed p c ((take p).apply c).2 := by
  obtain ⟨q, template, m, happly, hq, hspares, hm⟩ := exists_of_apply_take p c
  have hannotations : q.annotations = p.annotations := by rcases hq with rfl | rfl <;> rfl
  have hfacts : q.facts = p.facts := by rcases hq with rfl | rfl <;> rfl
  rw [happly]
  refine ⟨stored_amended hq hspares hm, rfl, rfl, bootstrapToken_amended q template m c, ?_, ?_,
    hspares.kept⟩
  · intro key hkey
    unfold amended annotation?
    dsimp only
    rw [hannotations]
    cases hgiven : p.annotations with
    | none => rfl
    | some facts => exact get?_mergeTexts _ (hgiven ▸ hkey)
  · intro key hkey
    unfold amended
    dsimp only
    rw [hfacts]
    cases hgiven : p.facts with
    | none => rfl
    | some facts => exact get?_overlay_texts _ (hgiven ▸ hkey)

theorem isLocal_parts : ∀ part ∈ parts, part.IsLocal Resource.Cluster.name take := by
  simp only [parts, List.forall_mem_cons]
  refine ⟨?displayName, ?annotations, ?facts, ?url, ?hostKeys, ?repository, ?global, ?tenant,
    ?dynamicFacts, ?compileMeta, ?status, fun _ h => nomatch h⟩ <;>
    intro p q c d c' d' hc hd hname hgiven hold <;>
    obtain ⟨template, m, ht, hm, rfl⟩ := exists_of_result_take hc <;>
    obtain ⟨template', m', ht', hm', rfl⟩ := exists_of_result_take hd <;>
    dsimp only at hgiven hold ⊢
  case repository =>
    rw [← hname] at ht'
    exact repository_eq ht ht' hgiven hold
  case compileMeta =>
    rw [hgiven, hm'] at hm
    cases hm
    unfold amended
    rw [compileMeta_statusAfter, compileMeta_statusAfter, hold]
  case status =>
    have hsame : p.dynamicFacts = q.dynamicFacts ∧ p.compileMeta = q.compileMeta := by
      simp only [Option.isNone_iff_eq_none] at hgiven
      split at hgiven <;> split at hgiven
      · next hp hq => exact ⟨hp.1.trans hq.1.symm, hp.2.trans hq.2.symm⟩
      · cases hgiven
      · cases hgiven
      · exact Prod.mk.inj (Option.some.inj hgiven)
    rw [hsame.2, hm'] at hm
    cases hm
    unfold amended
    rw [hsame.1, hold]
  all_goals simp [amended, facts_statusAfter, hgiven, hold]

/-- What is left when nothing is named is the cluster as it was: the parts, and what no client may
change, make up all of it. -/
theorem eq_of_touchesNamed_nothing {c c' : Resource.Cluster} (h : TouchesNamed {} c c') : c' = c := by
  have hnothing : ∀ part ∈ parts, part.given {} = none := by simp [parts, namedRepo]
  have hparts : ∀ part ∈ parts, part.stored c' = part.stored c :=
    fun part hpart => h.unnamed part hpart (hnothing part hpart)
  simp only [parts, List.forall_mem_cons] at hparts
  obtain ⟨hname, hannotations, hfacts, hurl, hkeys, hrepo, hglobal, hrevision, -, -, hstatus, -⟩ :=
    hparts
  have hmetadata : c'.metadata = c.metadata := h.metadata.trans (by rw [hannotations])
  have hspec : c'.spec = c.spec := by
    rw [ClusterSpec.mk.injEq]
    exact ⟨hname, hurl, hkeys, congrArg Prod.snd hrepo, h.tenantRef, hfacts, hglobal, hrevision⟩
  exact Resource.Cluster.mk.injEq .. ▸ ⟨hmetadata, hspec, hstatus⟩

end Cluster

/-! ### Tenants -/

namespace Tenant

/-- A part that is not named stays, wherever the change stopped. -/
theorem stored_amended {p q : TenantProperties} {template : Option RepoTemplate}
    {t : Resource.Tenant} (hq : q = p ∨ q = upToRepo p)
    (hspares : Spares (p.gitRepo.map (·.repo)) t.spec.gitRepoTemplate template) :
    ∀ part ∈ parts, part.given p = none → part.stored (amended q template t) = part.stored t := by
  simp only [parts, List.forall_mem_cons]
  refine ⟨?displayName, ?annotations, ?url, ?revision, ?repository, ?globalUrl, ?global,
    fun _ h => nomatch h⟩ <;> intro hnone
  case repository =>
    have hurl : q.gitRepo.bind (·.repo.url) = none := by
      have hurl : (p.gitRepo.map (·.repo)).bind (·.url) = none := by
        rw [← url_namedRepo, hnone]
        rfl
      rw [Option.bind_map] at hurl
      rcases hq with rfl | rfl <;> exact hurl
    rw [hspares.unnamed hnone]
    unfold amended
    rw [hurl]
    rfl
  all_goals rcases hq with rfl | rfl <;> simp [amended, upToRepo, hnone]

theorem touchesNamed_apply_take (p : TenantProperties) (t : Resource.Tenant) :
    TouchesNamed p t ((take p).apply t).2 := by
  obtain ⟨q, template, happly, hq, hspares⟩ := exists_of_apply_take p t
  have hannotations : q.annotations = p.annotations := by rcases hq with rfl | rfl <;> rfl
  rw [happly]
  refine ⟨stored_amended hq hspares, rfl, ?_, hspares.kept⟩
  intro key hkey
  unfold amended annotation?
  dsimp only
  rw [hannotations]
  cases hgiven : p.annotations with
  | none => rfl
  | some facts => exact get?_mergeTexts _ (hgiven ▸ hkey)

theorem isLocal_parts : ∀ part ∈ parts, part.IsLocal Resource.Tenant.name take := by
  simp only [parts, List.forall_mem_cons]
  refine ⟨?displayName, ?annotations, ?url, ?revision, ?repository, ?globalUrl, ?global,
    fun _ h => nomatch h⟩ <;>
    intro p q t u t' u' ht hu hname hgiven hold <;>
    obtain ⟨template, htemplate, rfl⟩ := exists_of_result_take ht <;>
    obtain ⟨template', htemplate', rfl⟩ := exists_of_result_take hu <;>
    dsimp only at hgiven hold ⊢
  case repository =>
    rw [← hname] at htemplate'
    have hrepo := repository_eq htemplate htemplate' hgiven hold
    rw [Option.bind_map, Option.bind_map] at hrepo
    exact hrepo
  all_goals simp [amended, hgiven, hold]

/-- What is left when nothing is named is the tenant as it was. -/
theorem eq_of_touchesNamed_nothing {t t' : Resource.Tenant} (h : TouchesNamed {} t t') : t' = t := by
  have hnothing : ∀ part ∈ parts, part.given {} = none := by simp [parts, namedRepo]
  have hparts : ∀ part ∈ parts, part.stored t' = part.stored t :=
    fun part hpart => h.unnamed part hpart (hnothing part hpart)
  simp only [parts, List.forall_mem_cons] at hparts
  obtain ⟨hname, hannotations, hurl, hrevision, hrepo, hglobalUrl, hglobal, -⟩ := hparts
  have hmetadata : t'.metadata = t.metadata := h.metadata.trans (by rw [hannotations])
  have hspec : t'.spec = t.spec := by
    rw [TenantSpec.mk.injEq]
    exact ⟨hname, hurl, hrevision, hglobalUrl, hglobal, congrArg Prod.snd hrepo⟩
  exact Resource.Tenant.mk.injEq .. ▸ ⟨hmetadata, hspec⟩

end Tenant

/-! ### Updates -/

/-- An update touches only what it names, whether or not it succeeds.  Whatever it names of an
object, the parts that it does not name are as before, and so are the name, the labels and the
revision, the owning tenant, the bootstrap token, and every annotation and fact under a name that
it gives no text for.  A repository template stays, with its secret and its display name; of its
deploy keys only the one that clients may set is set, unless the repository is to be left alone.
Where the update succeeds, the new value of a part depends on nothing but its old value, what is
given for it, and the name of the object. -/
theorem take_touches_named :
    (∀ p c, Cluster.TouchesNamed p c ((Cluster.take p).apply c).2) ∧
    (∀ part ∈ Cluster.parts, part.IsLocal Resource.Cluster.name Cluster.take) ∧
    (∀ p t, Tenant.TouchesNamed p t ((Tenant.take p).apply t).2) ∧
    ∀ part ∈ Tenant.parts, part.IsLocal Resource.Tenant.name Tenant.take :=
  ⟨Cluster.touchesNamed_apply_take, Cluster.isLocal_parts, Tenant.touchesNamed_apply_take,
    Tenant.isLocal_parts⟩

/-! #### An update that fails half-way -/

namespace Halfway

/-- A cluster whose repository is managed. -/
def stored : Resource.Cluster where
  metadata := { name := some "c-1", annotations := some (.ofList [("team", "red")]) }
  spec := {
    displayName := "One"
    gitRepoUrl := "ssh://git@h/g/r.git"
    gitRepoTemplate := some (.managed "g" "r")
    globalGitRepoRevision := "v1" }
  status := some { facts := .ofList [("ready", "true")] }

/-- A cluster of the same name and display name, and with nothing else. -/
def bare : Resource.Cluster where
  metadata := { name := some "c-1" }
  spec := { displayName := "One" }

/-- An update whose URL names no repository. -/
def refused : ClusterProperties where
  displayName := some "Two"
  annotations := some (.ofList [("team", .null), ("floor", .string "3")])
  gitRepo := some { url := some "ssh://git@h/g" }
  globalGitRepoRevision := some "v2"
  dynamicFacts := some .empty

/-- An update of the revision alone. -/
def accepted : ClusterProperties where
  globalGitRepoRevision := some "v2"

theorem take_touches_named_refused :
    ((Cluster.take refused).apply stored).1.isOk = false ∧
    ((Cluster.take refused).apply stored).2.spec.displayName = "Two" ∧
    Cluster.TouchesNamed refused stored ((Cluster.take refused).apply stored).2 ∧
    ∃ after bare', (Cluster.take accepted).result stored = .ok after ∧
      (Cluster.take accepted).result bare = .ok bare' ∧
      after.spec.displayName = bare'.spec.displayName := by
  have hstored : (Cluster.take accepted).result stored =
      .ok { stored with spec.globalGitRepoRevision := "v2" } := rfl
  have hbare : (Cluster.take accepted).result bare =
      .ok { bare with spec.globalGitRepoRevision := "v2" } := rfl
  have hlocal := take_touches_named.2.1 _ List.mem_cons_self accepted accepted stored bare _ _
    hstored hbare rfl rfl rfl
  exact ⟨by decide +kernel, by decide +kernel, take_touches_named.1 refused stored, _, _, hstored,
    hbare, hlocal⟩

end Halfway
end Fleet.Exchange

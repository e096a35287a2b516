import Fleet.Proofs.Exchange.CompileMeta
import Fleet.Proofs.Exchange.Repo
import Fleet.Proofs.Json.RoundTrip

/-! # Merging what clients see

`Cluster.merge` and `Tenant.merge` lay the properties that a client gives over a public record, field
by field.  They know no templates and no stored texts.  Taking the same properties over into a stored
object changes what clients see of it in just this way, but for dynamic facts that do not come out of
their texts as they are, and fails for the same reason (`Cluster.refines_merge`,
`Tenant.refines_merge`): a repository that is refused, or a report of which some known field is not of
its form (`Cluster.exists_merge_iff`). -/

namespace Fleet

open Json

/-! ### Facts -/

/-- The fact comes out of the text that stores it. -/
theorem Fact.decode_encode {v : Value} (h : v.Fits depthLimit) (hsurvives : v.Survives) :
    Fact.decode (Fact.encode v) = v := by
  unfold decode encode
  rw [parse_render h hsurvives]

namespace Facts

/-- The facts have been read from JSON texts. -/
def AreRead (facts : Facts) : Prop :=
  ∀ name v, facts.get? name = some v → ∃ s : Source, parse s = .ok v

/-- The facts are not nested too deep to be read, and their objects are in order. -/
def Fit (facts : Facts) : Prop := ∀ name v, facts.get? name = some v → v.Fits depthLimit

theorem AreRead.fit {facts : Facts} (h : facts.AreRead) : facts.Fit := by
  intro name v hv
  obtain ⟨s, hs⟩ := h name v hv
  exact fits_of_parse hs

/-- The binary64 numbers in the facts survive their text form. -/
def Survive (facts : Facts) : Prop := ∀ name v, facts.get? name = some v → v.Survives

/-- The facts that come out of the texts that store them. -/
def reread (facts : Facts) : Facts := facts.map (fun v => Fact.decode (Fact.encode v))

theorem forall_singleton {P : Value → Prop} {name : String} {v : Value} (h : P v) :
    ∀ key w, Dict.get? (.ofList [(name, v)]) key = some w → P w := by
  intro key w hw
  rw [Dict.get?_ofList_cons] at hw
  by_cases hkey : name = key
  · rw [if_pos hkey] at hw
    exact Option.some.inj hw ▸ h
  · rw [if_neg hkey] at hw
    cases hw

theorem areRead_singleton {name : String} {v : Value} {s : Source} (h : parse s = .ok v) :
    AreRead (.ofList [(name, v)]) :=
  @forall_singleton (fun v => ∃ s : Source, parse s = .ok v) name v ⟨s, h⟩

theorem survive_singleton {name : String} {v : Value} (h : v.Survives) :
    Survive (.ofList [(name, v)]) := forall_singleton h

/-- Facts that fit and survive come out as they are. -/
theorem reread_eq {facts : Facts} (hfit : facts.Fit) (hsurvive : facts.Survive) :
    facts.reread = facts := by
  apply Dict.ext_get?
  intro name
  unfold reread
  rw [Dict.get?_map]
  cases hv : facts.get? name with
  | none => rfl
  | some v => exact congrArg some (Fact.decode_encode (hfit name v hv) (hsurvive name v hv))

/-- The facts, if there are any. -/
def nonEmpty (facts : Facts) : Option Facts := if facts.isEmpty then none else some facts

/-- Facts with others laid over them, of which only the texts count. -/
def merge (old given : Option Facts) : Option Facts :=
  given.elim old (fun facts => nonEmpty ((old.getD .empty).overlay (facts.texts.map .string)))

/-- Facts that take the place of others. -/
def replace (old given : Option Facts) : Option Facts := given.elim old nonEmpty

theorem getD_nonEmpty (facts : Facts) : (nonEmpty facts).getD .empty = facts := by
  obtain ⟨entries, h⟩ := facts
  cases entries <;> rfl

theorem ofTexts_eq (d : Dict String) : ofTexts d = nonEmpty (d.map .string) := by
  obtain ⟨entries, h⟩ := d
  cases entries <;> rfl

theorem nonEmpty_overlay_ofTexts (d texts : Dict String) :
    nonEmpty (((ofTexts d).getD .empty).overlay (texts.map .string)) =
      ofTexts (d.overlay texts) := by
  rw [ofTexts_eq, ofTexts_eq, getD_nonEmpty, Dict.map_overlay]

end Facts

theorem Record.GitRepo.getD_nonEmpty (r : Record.GitRepo) : (Record.GitRepo.nonEmpty r).getD {} = r := by
  unfold Record.GitRepo.nonEmpty
  split
  · next h => exact h.symm
  · rfl

theorem Record.RevisionedGitRepo.getD_nonEmpty (r : Record.RevisionedGitRepo) :
    (Record.RevisionedGitRepo.nonEmpty r).getD {} = r := by
  unfold Record.RevisionedGitRepo.nonEmpty
  split
  · next h => exact h.symm
  · rfl

/-- The properties with the dynamic facts that come out of the texts that store them. -/
def Record.ClusterProperties.reread (p : ClusterProperties) : ClusterProperties :=
  { p with dynamicFacts := p.dynamicFacts.map Facts.reread }

theorem Record.ClusterProperties.reread_eq {p : ClusterProperties}
    (h : ∀ facts, p.dynamicFacts = some facts → facts.AreRead ∧ facts.Survive) : p.reread = p := by
  have hfacts : p.dynamicFacts.map Facts.reread = p.dynamicFacts := by
    cases hgiven : p.dynamicFacts with
    | none => rfl
    | some facts =>
        obtain ⟨hread, hsurvive⟩ := h facts hgiven
        exact congrArg some (Facts.reread_eq hread.fit hsurvive)
  unfold reread
  rw [hfacts]

namespace Exchange

open Record

/-! ### Records -/

/-- The repository `old` with what a client names of it, if anything. -/
def mergeGitRepo (old given : Option GitRepo) : Except ChangeError (Option GitRepo) :=
  match given with
  | none => .ok old
  | some given => (mergeRepo (old.getD {}) given).map GitRepo.nonEmpty

/-- The repository `old` with what a client names of it and of its revision, if anything.  Tenants
have no host keys. -/
def mergeRevisionedGitRepo (old given : Option RevisionedGitRepo) :
    Except ChangeError (Option RevisionedGitRepo) :=
  match given with
  | none => .ok old
  | some given =>
    let old := old.getD {}
    (mergeRepo old.repo given.repo).map (fun repo => RevisionedGitRepo.nonEmpty {
      repo := { repo with hostKeys := old.repo.hostKeys }
      revision := mergeText old.revision given.revision })

/-- The normal form of the report that is given, else the old one. -/
def mergeReport (old given : Option CompileReport) : Except ChangeError (Option CompileReport) :=
  match given with
  | none => .ok old
  | some report => (Cluster.compileMeta report).map (fun _ => some report.normal)

/-- A public cluster with the properties that a client gives. -/
def Cluster.merge (c : Record.Cluster) (p : ClusterProperties) :
    Except ChangeError Record.Cluster := do
  let old := c.properties
  let gitRepo ← mergeGitRepo old.gitRepo p.gitRepo
  let report ← mergeReport old.compileMeta p.compileMeta
  return { c with
    properties := { old with
      displayName := mergeText old.displayName p.displayName
      annotations := Facts.merge old.annotations p.annotations
      facts := Facts.merge old.facts p.facts
      dynamicFacts := Facts.replace old.dynamicFacts p.dynamicFacts
      gitRepo := gitRepo
      globalGitRepoRevision := mergeText old.globalGitRepoRevision p.globalGitRepoRevision
      tenantGitRepoRevision := mergeText old.tenantGitRepoRevision p.tenantGitRepoRevision
      compileMeta := report } }

/-- A public tenant with the properties that a client gives. -/
def Tenant.merge (t : Record.Tenant) (p : TenantProperties) : Except ChangeError Record.Tenant := do
  let old := t.properties
  let gitRepo ← mergeRevisionedGitRepo old.gitRepo p.gitRepo
  return { t with
    properties := {
      displayName := mergeText old.displayName p.displayName
      annotations := Facts.merge old.annotations p.annotations
      gitRepo := gitRepo
      globalGitRepoUrl := mergeText old.globalGitRepoUrl p.globalGitRepoUrl
      globalGitRepoRevision := mergeText old.globalGitRepoRevision p.globalGitRepoRevision } }

/-- The outcome of a change refines the merged record: an object that is shown as this record, or the
same error. -/
def Refines {ρ σ : Type} (shown : ρ → Except ChangeError σ) (merged : Except ChangeError σ) :
    Except ChangeError ρ → Prop
  | .ok r => ∃ record, shown r = .ok record ∧ merged = .ok record
  | .error e => merged = .error e

theorem Refines.eq_bind {ρ σ : Type} {shown : ρ → Except ChangeError σ}
    {merged : Except ChangeError σ} {outcome : Except ChangeError ρ}
    (h : Refines shown merged outcome) : merged = outcome >>= shown := by
  cases outcome with
  | ok r =>
      obtain ⟨record, hshown, hmerged⟩ := h
      exact hmerged.trans hshown.symm
  | error e => exact h

/-! ### Repositories -/

theorem exists_mergeGitRepo_iff {old given : Option GitRepo} :
    (∃ merged, mergeGitRepo old given = .ok merged) ↔
      ∀ repo, given = some repo → ∃ merged, mergeRepo (old.getD {}) repo = .ok merged := by
  cases given with
  | none =>
      constructor
      · intro _ repo h
        cases h
      · intro _
        exact ⟨old, rfl⟩
  | some repo =>
      unfold mergeGitRepo
      dsimp only
      rw [Result.exists_map_iff]
      constructor
      · intro h repo' heq
        exact Option.some.inj heq ▸ h
      · intro h
        exact h repo rfl

theorem shown_templateAfter (repo : Option GitRepo) (url hostKeys name : String)
    (template : Option Resource.RepoTemplate) :
    (templateAfter repo url name template).map (fun t => GitRepo.nonEmpty
        (shownRepo ((repo.bind (·.url)).getD url) ((repo.bind (·.hostKeys)).getD hostKeys) t)) =
      mergeGitRepo (GitRepo.nonEmpty (shownRepo url hostKeys template)) repo := by
  cases repo with
  | none => rfl
  | some repo =>
      unfold mergeGitRepo
      dsimp only
      rw [GitRepo.getD_nonEmpty, ← shown_nextTemplate repo url hostKeys name template, Result.map_map]
      rfl

/-- What clients see of the repository of a tenant. -/
def shownTenantRepo (url revision : String) (template : Option Resource.RepoTemplate) :
    Option RevisionedGitRepo :=
  RevisionedGitRepo.nonEmpty ⟨shownRepo url "" template, nonEmpty revision⟩

theorem shown_templateAfter_tenant (repo : Option RevisionedGitRepo) (url revision name : String)
    (template : Option Resource.RepoTemplate) :
    (templateAfter (repo.map (·.repo)) url name template).map
        (shownTenantRepo ((repo.bind (·.repo.url)).getD url)
          ((repo.bind (·.revision)).getD revision)) =
      mergeRevisionedGitRepo (shownTenantRepo url revision template) repo := by
  cases repo with
  | none => rfl
  | some repo =>
      unfold mergeRevisionedGitRepo shownTenantRepo
      dsimp only
      rw [RevisionedGitRepo.getD_nonEmpty, ← shown_nextTemplate repo.repo url "" name template,
        Result.map_map, ← nonEmpty_getD]
      rfl

/-! ### Annotations -/

/-- What clients see of annotations after a change. -/
theorem annotations_amended (old : Option (Dict String)) (given : Option Facts) :
    (given.elim old (mergeTexts old)).bind Facts.ofTexts =
      Facts.merge (old.bind Facts.ofTexts) given := by
  cases given with
  | none => rfl
  | some facts =>
      have hold : old.bind Facts.ofTexts = Facts.ofTexts (old.getD .empty) := by
        cases old <;> rfl
      have hmerged : Facts.merge (Facts.ofTexts (old.getD .empty)) (some facts) =
          Facts.ofTexts ((old.getD .empty).overlay facts.texts) :=
        Facts.nonEmpty_overlay_ofTexts (old.getD .empty) facts.texts
      rw [hold, hmerged]
      change (mergeTexts old facts).bind Facts.ofTexts = _
      unfold mergeTexts
      split
      · next hempty =>
          have hnone : facts.texts.entries = [] := List.isEmpty_iff.1 hempty
          rw [hold, Dict.overlay, hnone, List.foldl_nil]
      · rfl

/-! ### Clusters -/

namespace Cluster

theorem decodeFacts_encodeFacts (facts : Facts) :
    decodeFacts (encodeFacts facts) = facts.reread.nonEmpty := by
  have hmap : (encodeFacts facts).map Fact.decode = facts.reread := by
    apply Dict.ext_get?
    intro name
    unfold encodeFacts Facts.reread
    rw [Dict.get?_map, Dict.get?_map, Dict.get?_map, Option.map_map]
    rfl
  have hempty : (encodeFacts facts).isEmpty = facts.reread.isEmpty := by
    obtain ⟨entries, hsorted⟩ := facts
    cases entries <;> rfl
  unfold decodeFacts Facts.nonEmpty
  rw [hmap, hempty]

theorem decodeFacts_statusAfter (facts : Option Facts) (m : Option Resource.CompileMeta)
    (status : Option Resource.ClusterStatus) :
    (statusAfter facts m status).bind (fun s => decodeFacts s.facts) =
      Facts.replace (status.bind (fun s => decodeFacts s.facts)) (facts.map Facts.reread) := by
  cases facts with
  | some f => exact decodeFacts_encodeFacts f
  | none => cases m <;> cases status <;> rfl

theorem facts_amended (old : Dict String) (given : Option Facts) :
    Facts.ofTexts (given.elim old (fun facts => old.overlay facts.texts)) =
      Facts.merge (Facts.ofTexts old) given := by
  cases given with
  | none => rfl
  | some facts => exact (Facts.nonEmpty_overlay_ofTexts old facts.texts).symm

theorem toRecord_amended {p : ClusterProperties} {c : Resource.Cluster}
    {template : Option Resource.RepoTemplate} {m : Option Resource.CompileMeta}
    {report : Option CompileReport}
    (hreport : (m.or (c.status.bind (·.compileMeta))).mapM compileReport = .ok report)
    {R : Record.Cluster} (hR : toRecord c = .ok R) :
    toRecord (amended p template m c) = .ok { R with
      properties := { R.properties with
        displayName := mergeText R.properties.displayName p.displayName
        annotations := Facts.merge R.properties.annotations p.annotations
        facts := Facts.merge R.properties.facts p.facts
        dynamicFacts := Facts.replace R.properties.dynamicFacts (p.dynamicFacts.map Facts.reread)
        gitRepo := GitRepo.nonEmpty (shownRepo ((p.gitRepo.bind (·.url)).getD c.spec.gitRepoUrl)
          ((p.gitRepo.bind (·.hostKeys)).getD c.spec.gitHostKeys) template)
        globalGitRepoRevision :=
          mergeText R.properties.globalGitRepoRevision p.globalGitRepoRevision
        tenantGitRepoRevision :=
          mergeText R.properties.tenantGitRepoRevision p.tenantGitRepoRevision
        compileMeta := report } } := by
  obtain ⟨old, hold, hR⟩ := Result.exists_of_bind hR
  cases hR
  unfold toRecord amended
  dsimp only
  rw [compileMeta_statusAfter, hreport, decodeFacts_statusAfter, annotations_amended,
    facts_amended, nonEmpty_getD c.spec.displayName, nonEmpty_getD c.spec.globalGitRepoRevision,
    nonEmpty_getD c.spec.tenantGitRepoRevision]
  rfl

/-- What clients see of the compile metadata after a change. -/
theorem report_amended {c : Resource.Cluster} {R : Record.Cluster} (hR : toRecord c = .ok R)
    {given : Option CompileReport} {m : Option Resource.CompileMeta}
    (h : given.mapM compileMeta = .ok m) : ∃ report,
      (m.or (c.status.bind (·.compileMeta))).mapM compileReport = .ok report ∧
        mergeReport R.properties.compileMeta given = .ok report := by
  cases given with
  | none =>
      cases h
      obtain ⟨old, hold, hR⟩ := Result.exists_of_bind hR
      cases hR
      exact ⟨old, hold, rfl⟩
  | some report =>
      rw [Option.mapM_some] at h
      obtain ⟨m', hm, h⟩ := Result.exists_of_bind h
      cases h
      refine ⟨some report.normal, ?_, ?_⟩
      · rw [Option.some_or, Option.mapM_some, compileReport_of_compileMeta hm]
        rfl
      · unfold mergeReport
        dsimp only
        rw [hm]
        rfl

theorem mergeReport_eq_error {old given : Option CompileReport} {e : ChangeError}
    (h : given.mapM compileMeta = .error e) : mergeReport old given = .error e := by
  cases given with
  | none => cases h
  | some report =>
      unfold mergeReport
      dsimp only
      rw [Option.mapM_some] at h
      cases hm : compileMeta report with
      | ok m =>
          rw [hm] at h
          cases h
      | error e' =>
          rw [hm] at h
          cases h
          rfl

/-- Taking properties over changes what clients see as the merge says, with the dynamic facts as they
come out of their texts, and fails if it does. -/
theorem refines_merge {c : Resource.Cluster} {R : Record.Cluster} (p : ClusterProperties)
    (hR : toRecord c = .ok R) : Refines toRecord (merge R p.reread) ((take p).result c) := by
  have hrepo := shown_templateAfter p.gitRepo c.spec.gitRepoUrl c.spec.gitHostKeys c.name
    c.spec.gitRepoTemplate
  have hold : R.properties.gitRepo = GitRepo.nonEmpty
      (shownRepo c.spec.gitRepoUrl c.spec.gitHostKeys c.spec.gitRepoTemplate) := by
    obtain ⟨old, -, hR⟩ := Result.exists_of_bind hR
    cases hR
    rfl
  rw [← hold] at hrepo
  rw [result_take]
  unfold merge ClusterProperties.reread
  dsimp only
  rw [← hrepo]
  cases templateAfter p.gitRepo c.spec.gitRepoUrl c.name c.spec.gitRepoTemplate with
  | error e => rfl
  | ok template =>
      cases hm : p.compileMeta.mapM compileMeta with
      | error e =>
          change Refines toRecord (mergeReport _ _ >>= fun _ => _) (.error e)
          rw [mergeReport_eq_error hm]
          rfl
      | ok m =>
          obtain ⟨report, hreport, hmerged⟩ := report_amended hR hm
          refine ⟨_, toRecord_amended hreport hR, ?_⟩
          change (mergeReport _ _ >>= fun _ => _) = _
          rw [hmerged]
          rfl

theorem exists_mergeReport_iff {old given : Option CompileReport} :
    (∃ report, mergeReport old given = .ok report) ↔
      ∀ report, given = some report → report.IsWellFormed := by
  cases given with
  | none =>
      constructor
      · intro _ report h
        cases h
      · intro _
        exact ⟨old, rfl⟩
  | some report =>
      unfold mergeReport
      dsimp only
      rw [Result.exists_map_iff, exists_compileMeta_iff]
      constructor
      · intro h report' heq
        exact Option.some.inj heq ▸ h
      · intro h
        exact h report rfl

/-- What is refused: a repository that is, or a report that is not well-formed. -/
theorem exists_merge_iff {R : Record.Cluster} {p : ClusterProperties} :
    (∃ merged, merge R p = .ok merged) ↔
      (∀ given, p.gitRepo = some given →
        ∃ repo, mergeRepo (R.properties.gitRepo.getD {}) given = .ok repo) ∧
      ∀ report, p.compileMeta = some report → report.IsWellFormed := by
  rw [← exists_mergeGitRepo_iff, ← @exists_mergeReport_iff R.properties.compileMeta]
  unfold merge
  dsimp only
  rw [Result.exists_bind_iff]
  constructor
  · rintro ⟨repo, hrepo, hmerged⟩
    obtain ⟨report, hreport, -⟩ := Result.exists_bind_iff.1 hmerged
    exact ⟨⟨repo, hrepo⟩, ⟨report, hreport⟩⟩
  · rintro ⟨⟨repo, hrepo⟩, ⟨report, hreport⟩⟩
    exact ⟨repo, hrepo, Result.exists_bind_iff.2 ⟨report, hreport, _, rfl⟩⟩

/-- A stored cluster is always shown: its instant is one that can be written. -/
theorem exists_toRecord {c : Resource.Cluster}
    (h : ∀ m t, c.status.bind (·.compileMeta) = some m → m.lastCompile = some t → t.IsCalendar) :
    ∃ R, toRecord c = .ok R := by
  unfold toRecord
  cases hm : c.status.bind (·.compileMeta) with
  | none => exact ⟨_, rfl⟩
  | some m =>
      rw [Option.mapM_some, compileReport_eq (h m · hm)]
      exact ⟨_, rfl⟩

end Cluster

/-! ### Tenants -/

namespace Tenant

/-- Taking properties over changes what clients see as the merge says, and fails if it does. -/
theorem refines_merge (t : Resource.Tenant) (p : TenantProperties) :
    Refines (fun t => .ok (toRecord t)) (merge (toRecord t) p) ((take p).result t) := by
  have hrepo := shown_templateAfter_tenant p.gitRepo t.spec.gitRepoUrl t.spec.gitRepoRevision
    t.name t.spec.gitRepoTemplate
  have hold : (toRecord t).properties.gitRepo = shownTenantRepo t.spec.gitRepoUrl
      t.spec.gitRepoRevision t.spec.gitRepoTemplate := rfl
  rw [← hold] at hrepo
  rw [result_take]
  unfold merge
  dsimp only
  rw [← hrepo]
  cases templateAfter (p.gitRepo.map (·.repo)) t.spec.gitRepoUrl t.name
    t.spec.gitRepoTemplate with
  | error e => rfl
  | ok template =>
      refine ⟨_, rfl, congrArg Except.ok ?_⟩
      unfold toRecord amended
      dsimp only
      rw [annotations_amended, nonEmpty_getD t.spec.displayName,
        nonEmpty_getD t.spec.globalGitRepoUrl, nonEmpty_getD t.spec.globalGitRepoRevision]
      rfl

end Tenant

end Exchange
end Fleet

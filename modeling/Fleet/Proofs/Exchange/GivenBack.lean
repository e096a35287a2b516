import Fleet.Proofs.Exchange.Merge
import Fleet.Proofs.WireFormat

/-! # Properties given back

What clients see of a stored object can be given back.  Every part of the object then comes out as it
was (`Cluster.result_take_shown`, `Tenant.result_take_shown`), though some are written anew: the
template from the URL that it was derived from, the deploy key from its two words, dynamic facts from
the values that their texts stand for, and compile metadata from the report that they amount to.

This rests on what is known of stored objects: the template fits its URL (`Coherent`), the dynamic
facts were printed from values that are not nested too deep (`HasPrintedFacts`), and the instant of the
last compilation is one of the calendar.  The binary64 numbers in the facts have to survive their text
form besides (`FactsSurvive`).  A managed repository without a URL has no template to derive,
and is refused when it is given back (`IsLocated` says that there is none). -/

namespace Fleet

open Json

/-! ### Texts -/

theorem Record.getD_nonEmpty (s : String) : (Record.nonEmpty s).getD s = s := by
  unfold Record.nonEmpty
  split <;> rfl

/-- The text is one that stores a dynamic fact. -/
def Fact.IsPrinted (raw : String) : Prop := ∃ v : Value, v.Fits depthLimit ∧ Fact.encode v = raw

/-- The binary64 numbers in the dynamic fact that the text stores survive their text form. -/
def Fact.Survives (raw : String) : Prop := ∀ v : Value, Fact.encode v = raw → v.Survives

theorem Fact.survives_of_no_digit {raw : String} (h : raw.toList.any Char.isDigit = false) :
    Fact.Survives raw := by
  rintro v rfl
  unfold Fact.encode Value.render at h
  rw [String.toList_ofList] at h
  exact Value.survives_of_no_digit h

theorem Fact.IsPrinted.encode_decode {raw : String} (h : Fact.IsPrinted raw)
    (hsurvives : Fact.Survives raw) : Fact.encode (Fact.decode raw) = raw := by
  obtain ⟨v, hfits, rfl⟩ := h
  rw [Fact.decode_encode hfits (hsurvives v rfl)]

namespace Facts

theorem texts_map_string (d : Dict String) : texts (d.map .string) = d := by
  apply Dict.ext_get?
  intro key
  unfold texts
  rw [Dict.get?_filterMap, Dict.get?_map]
  cases d.get? key <;> rfl

/-- Texts that are shown and laid over themselves stay. -/
theorem overlay_shown (d : Dict String) :
    (ofTexts d).elim d (fun facts => d.overlay facts.texts) = d := by
  unfold ofTexts
  split
  · rfl
  · exact (congrArg d.overlay (texts_map_string d)).trans d.overlay_self

end Facts

namespace Exchange

open Record Resource

theorem mergeTexts_shown (d : Option (Dict String)) :
    (d.bind Facts.ofTexts).elim d (mergeTexts d) = d := by
  cases d with
  | none => rfl
  | some d =>
      rw [Option.bind_some]
      unfold Facts.ofTexts
      split
      · rfl
      · next hne =>
          rw [Option.elim_some, mergeTexts, Facts.texts_map_string, if_neg hne, Option.getD_some,
            Dict.overlay_self]

/-! ### Repositories -/

/-- A managed repository has a URL. -/
def IsLocated (url : String) (template : Option RepoTemplate) : Prop :=
  ∀ t, template = some t → t.isManaged = true → url ≠ ""

/-- A template that was derived from its URL is derived from it again. -/
theorem updateTemplate_shown {url name : String} {template : Option RepoTemplate}
    (h : Coherent url name template) (hurl : IsLocated url template) (hostKeys : String) :
    updateTemplate template { shownRepo url hostKeys template with url := nonEmpty url }
      (nonEmpty url).isSome name = .ok template := by
  cases template with
  | none =>
      -- without a template there is no URL either, so nothing is named
      have hnone : url = "" := by
        by_contra hne
        exact absurd (h.present hne) (by decide)
      subst hnone
      rfl
  | some t =>
      have hfits := h.fits t rfl
      obtain ⟨secret, keys, path, repoName, type, displayName⟩ := t
      cases type with
      | unmanaged =>
          obtain ⟨rfl, rfl, rfl⟩ := hfits.leftAlone rfl
          rfl
      | auto =>
          have hne : url ≠ "" := hurl _ rfl rfl
          have hsplit : splitRepoUrl url = .ok (path, repoName) := h.derived _ rfl rfl hne
          have hresolve : resolveRepo ⟨nonEmpty url, nonEmpty hostKeys, some .auto,
              deployKey? (some ⟨secret, keys, path, repoName, .auto, displayName⟩)⟩ name =
              .ok (some { RepoTemplate.managed path repoName with displayName := name }) := by
            rw [resolveRepo_eq _ _ _ _ (by decide), nonEmpty_eq_some_iff.2 ⟨hne, rfl⟩]
            dsimp only
            rw [hsplit]
            rfl
          obtain rfl : displayName = name := hfits.shown.resolve_right (fun hleft => nomatch hleft.1)
          unfold updateTemplate shownRepo
          dsimp only [Option.map_some]
          rw [hresolve]
          change Except.ok (some (RepoTemplate.mk secret keys path repoName .auto
            (if displayName.isEmpty then displayName else displayName))) = _
          rw [ite_self]

/-- A deploy key that is shown is set already. -/
theorem addDeployKey_shown {url name key : String} {template : Option RepoTemplate}
    (h : Coherent url name template) (hkey : deployKey? template = some key) :
    (fun t => some t) <$> addDeployKey template key = .ok template := by
  obtain ⟨k, hk, rfl⟩ := Option.map_eq_some_iff.1 hkey
  obtain ⟨t, rfl, hget⟩ := Option.bind_eq_some_iff.1 hk
  have hfits := h.fits t rfl
  obtain ⟨-, htype, hword, hwrites⟩ := hfits.deployKeys _ k hget
  have hmanaged : t.isManaged = true := by
    by_contra hleft
    rw [(hfits.leftAlone (Bool.not_eq_true _ ▸ hleft)).2.2] at hget
    cases hget
  have hread : readDeployKey (k.keyType ++ " " ++ k.key) = some (k.keyType, k.key) :=
    readDeployKey_eq_some_iff.2 ⟨htype, hword, rfl⟩
  obtain ⟨keyType, word, writeAccess⟩ := k
  dsimp only at hwrites
  subst hwrites
  unfold addDeployKey
  rw [hread]
  dsimp only
  rw [if_pos hmanaged, Dict.insert_of_get? hget]
  rfl

theorem nextTemplate_shown {url name : String} {template : Option RepoTemplate}
    (h : Coherent url name template) (hurl : IsLocated url template) (hostKeys : String) :
    nextTemplate (shownRepo url hostKeys template) url name template = .ok template := by
  have hupdate : updateTemplate template { shownRepo url hostKeys template with url := nonEmpty url }
      (shownRepo url hostKeys template).url.isSome name = .ok template :=
    updateTemplate_shown h hurl hostKeys
  unfold nextTemplate
  rw [hupdate]
  cases hkey : deployKey? template with
  | none =>
      have hnone : (shownRepo url hostKeys template).deployKey = none := hkey
      rw [hnone]
      rfl
  | some key =>
      have hsome : (shownRepo url hostKeys template).deployKey = some key := hkey
      rw [hsome]
      exact addDeployKey_shown h hkey

/-- The repository of a cluster, given back. -/
theorem templateAfter_shown {url name : String} {template : Option RepoTemplate}
    (h : Coherent url name template) (hurl : IsLocated url template) (hostKeys : String) :
    templateAfter (GitRepo.nonEmpty (shownRepo url hostKeys template)) url name template =
      .ok template := by
  unfold GitRepo.nonEmpty
  split
  · rfl
  · have hsame : (shownRepo url hostKeys template).url.getD url = url := getD_nonEmpty url
    unfold templateAfter
    dsimp only
    rw [hsame]
    exact nextTemplate_shown h hurl hostKeys

/-- The repository of a tenant, given back. -/
theorem templateAfter_shown_tenant {url name : String} {template : Option RepoTemplate}
    (h : Coherent url name template) (hurl : IsLocated url template) (revision : String) :
    templateAfter ((shownTenantRepo url revision template).map (·.repo)) url name template =
      .ok template := by
  unfold shownTenantRepo RevisionedGitRepo.nonEmpty
  split
  · rfl
  · have hsame : (shownRepo url "" template).url.getD url = url := getD_nonEmpty url
    unfold templateAfter
    dsimp only [Option.map_some]
    rw [hsame]
    exact nextTemplate_shown h hurl ""

/-- A part of what stands for itself unless it is blank, the blank one not having it. -/
theorem bind_someUnless {α β : Type} [DecidableEq α] {a blank : α} {f : α → Option β}
    (hf : f blank = none) : (if a = blank then none else some a).bind f = f a := by
  split
  · next h => rw [h, hf, Option.bind_none]
  · rfl

theorem url_shown (url hostKeys : String) (template : Option RepoTemplate) :
    ((GitRepo.nonEmpty (shownRepo url hostKeys template)).bind (·.url)).getD url = url := by
  rw [GitRepo.nonEmpty, bind_someUnless rfl]
  exact getD_nonEmpty url

theorem hostKeys_shown (url hostKeys : String) (template : Option RepoTemplate) :
    ((GitRepo.nonEmpty (shownRepo url hostKeys template)).bind (·.hostKeys)).getD hostKeys =
      hostKeys := by
  rw [GitRepo.nonEmpty, bind_someUnless rfl]
  exact getD_nonEmpty hostKeys

theorem url_shown_tenant (url revision : String) (template : Option RepoTemplate) :
    ((shownTenantRepo url revision template).bind (·.repo.url)).getD url = url := by
  rw [shownTenantRepo, RevisionedGitRepo.nonEmpty, bind_someUnless rfl]
  exact getD_nonEmpty url

theorem revision_shown (url revision : String) (template : Option RepoTemplate) :
    ((shownTenantRepo url revision template).bind (·.revision)).getD revision = revision := by
  rw [shownTenantRepo, RevisionedGitRepo.nonEmpty, bind_someUnless rfl]
  exact getD_nonEmpty revision

/-! ### Clusters -/

namespace Cluster

/-- The dynamic facts of a cluster were printed from values that are not nested too deep. -/
def HasPrintedFacts (c : Resource.Cluster) : Prop :=
  ∀ name raw, (c.status.getD {}).facts.get? name = some raw → Fact.IsPrinted raw

/-- The binary64 numbers in the dynamic facts of a cluster survive their text form. -/
def FactsSurvive (c : Resource.Cluster) : Prop :=
  ∀ name raw, (c.status.getD {}).facts.get? name = some raw → Fact.Survives raw

/-- Facts that fit are printed when they are taken over. -/
theorem HasPrintedFacts.take {p : ClusterProperties} {c c' : Resource.Cluster}
    (h : HasPrintedFacts c) (hfit : ∀ facts, p.dynamicFacts = some facts → facts.Fit)
    (hok : (Cluster.take p).result c = .ok c') : HasPrintedFacts c' := by
  obtain ⟨template, m, -, -, rfl⟩ := exists_of_result_take hok
  intro name raw hget
  unfold amended at hget
  dsimp only at hget
  rw [facts_statusAfter] at hget
  cases hgiven : p.dynamicFacts with
  | none =>
      rw [hgiven] at hget
      exact h name raw hget
  | some facts =>
      rw [hgiven, Option.elim_some, encodeFacts, Dict.get?_map] at hget
      obtain ⟨v, hv, hraw⟩ := Option.map_eq_some_iff.1 hget
      exact ⟨v, hfit facts hgiven name v hv, hraw⟩

theorem encodeFacts_decode {d : Dict String}
    (h : ∀ name raw, d.get? name = some raw → Fact.encode (Fact.decode raw) = raw) :
    encodeFacts (d.map Fact.decode) = d := by
  apply Dict.ext_get?
  intro name
  unfold encodeFacts
  rw [Dict.get?_map, Dict.get?_map]
  cases hget : d.get? name with
  | none => rfl
  | some raw => exact congrArg some (h name raw hget)

/-- What a report writes of compile metadata is what the metadata write. -/
theorem members_eq_of_compileReport {m : CompileMeta} {report : CompileReport}
    (hm : ∀ t, m.lastCompile = some t → t.IsCalendar) (h : compileReport m = .ok report) :
    report.members = .ofList (Layout.members CompileMeta.layout.allFields m) := by
  rw [compileReport_eq hm] at h
  cases h
  have hlast : (Dict.ofList (Layout.members CompileMeta.layout.allFields m)).get? "lastCompile" =
      m.lastCompile.map (fun t => Value.string t.print) :=
    Layout.get?_members CompileMeta.lawful.distinct List.mem_cons_self m
  apply Dict.ext_get?
  intro key
  unfold CompileReport.members
  dsimp only
  rw [Dict.get?_overlay, ← erase_lastCompile, Dict.get?_erase]
  by_cases hkey : "lastCompile" = key
  · rw [if_pos hkey, Option.none_or, ← hkey, hlast]
    cases m.lastCompile <;> simp
  · rw [if_neg hkey]
    cases m.lastCompile <;> simp [hkey]

/-- Compile metadata come back from the report that they amount to. -/
theorem compileMeta_of_compileReport {m : CompileMeta} {report : CompileReport}
    (hm : ∀ t, m.lastCompile = some t → t.IsCalendar) (h : compileReport m = .ok report) :
    compileMeta report = .ok m := by
  have hreads := (CompileMeta.keeps hm 0).reads .value
  unfold compileMeta decodeValue
  rw [CompileReport.encode_eq, members_eq_of_compileReport hm h, ← encode_compileMeta]
  exact Result.mapError_eq_ok_iff.2 hreads

theorem statusAfter_shown {c : Resource.Cluster} (h : HasPrintedFacts c)
    (hsurvive : FactsSurvive c) :
    statusAfter (c.status.bind (fun s => decodeFacts s.facts)) (c.status.bind (·.compileMeta))
      c.status = c.status := by
  cases hstatus : c.status with
  | none => rfl
  | some s =>
      have hfacts : (decodeFacts s.facts).elim s.facts encodeFacts = s.facts := by
        unfold decodeFacts
        split
        · rfl
        · unfold HasPrintedFacts at h
          unfold FactsSurvive at hsurvive
          rw [hstatus] at h hsurvive
          exact encodeFacts_decode fun name raw hraw =>
            (h name raw hraw).encode_decode (hsurvive name raw hraw)
      unfold statusAfter
      split
      · rfl
      · dsimp only [Option.bind_some, Option.getD_some]
        rw [hfacts, Option.or_self]

/-- What clients see of a cluster, given back with whatever install URL. -/
theorem result_take_shown {c : Resource.Cluster} {record : Record.Cluster} (hcoherent : IsCoherent c)
    (hurl : IsLocated c.spec.gitRepoUrl c.spec.gitRepoTemplate) (hfacts : HasPrintedFacts c)
    (hsurvive : FactsSurvive c)
    (hdated : ∀ m t, c.status.bind (·.compileMeta) = some m → m.lastCompile = some t → t.IsCalendar)
    (h : toRecord c = .ok record) (installUrl : Option String) :
    (take { record.properties with installUrl := installUrl }).result c = .ok c := by
  obtain ⟨report, hreport, h⟩ := Result.exists_of_bind h
  cases h
  have hm : report.mapM compileMeta = .ok (c.status.bind (·.compileMeta)) := by
    cases hstored : c.status.bind (·.compileMeta) with
    | none =>
        rw [hstored] at hreport
        cases hreport
        rfl
    | some m =>
        rw [hstored, Option.mapM_some] at hreport
        obtain ⟨r, hr, h⟩ := Result.exists_of_map hreport
        cases h
        rw [Option.mapM_some, compileMeta_of_compileReport (hdated m · hstored) hr]
        rfl
  have hshown : (⟨nonEmpty c.spec.gitRepoUrl, nonEmpty c.spec.gitHostKeys,
      c.spec.gitRepoTemplate.map (·.repoType), deployKey? c.spec.gitRepoTemplate⟩ : GitRepo) =
      shownRepo c.spec.gitRepoUrl c.spec.gitHostKeys c.spec.gitRepoTemplate := rfl
  rw [result_take]
  dsimp only
  rw [hshown, templateAfter_shown hcoherent hurl, hm]
  refine congrArg Except.ok ?_
  unfold amended
  dsimp only
  rw [mergeTexts_shown, url_shown, hostKeys_shown, Facts.overlay_shown,
    statusAfter_shown hfacts hsurvive, getD_nonEmpty, getD_nonEmpty, getD_nonEmpty]

end Cluster

/-! ### Tenants -/

namespace Tenant

/-- What clients see of a tenant, given back. -/
theorem result_take_shown {t : Resource.Tenant} (hcoherent : IsCoherent t)
    (hurl : IsLocated t.spec.gitRepoUrl t.spec.gitRepoTemplate) :
    (take (toRecord t).properties).result t = .ok t := by
  have hshown : (toRecord t).properties.gitRepo =
      shownTenantRepo t.spec.gitRepoUrl t.spec.gitRepoRevision t.spec.gitRepoTemplate := rfl
  rw [result_take, hshown, templateAfter_shown_tenant hcoherent hurl]
  refine congrArg Except.ok ?_
  unfold amended
  rw [hshown, url_shown_tenant, revision_shown]
  unfold toRecord
  dsimp only
  rw [mergeTexts_shown, getD_nonEmpty, getD_nonEmpty, getD_nonEmpty]

end Tenant

end Exchange
end Fleet

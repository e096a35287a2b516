import Fleet.Proofs.Exchange.Coherence

/-! # What clients see of a repository after a change

`mergeRepo` lays the repository that a client names over the one that clients saw before, field by
field, and says when it is refused.  The template, which clients do not see, is changed accordingly:
what they see of it afterwards is the merged repository (`shown_nextTemplate`). -/

namespace Fleet.Exchange

open Record Resource

/-! ### Merging -/

/-- A text that is given replaces the old one; an empty text stands for none. -/
def mergeText (old given : Option String) : Option String := given.elim old nonEmpty

/-- The type of a repository: the one that is given, else the old one, else a repository is managed
once it has been given a URL. -/
def mergeType (old given : GitRepo) : Option RepoType :=
  given.repoType.or (old.repoType.or (if (given.url.bind nonEmpty).isSome then some .auto else none))

/-- The deploy key of a repository: the one that is given, else the old one, unless the repository is
to be left alone. -/
def mergeDeployKey (old given : GitRepo) : Option String :=
  given.deployKey.or (if given.repoType = some .unmanaged then none else old.deployKey)

/-- A URL names a repository. -/
def checkSplit (url : String) : Except InvalidRepoUrl Unit := (splitRepoUrl url).map (fun _ => ())

/-- Why the URL that results is refused.  It has to name a repository if the type is given as managed,
or if the URL is given and the repository is not one that is left alone. -/
def checkUrl (old given : GitRepo) : Except InvalidRepoUrl Unit :=
  match given.repoType, mergeText old.url given.url with
  | some .unmanaged, _ => .ok ()
  | some .auto, none => .error ⟨"", "a managed repository requires a URL"⟩
  | some .auto, some url => checkSplit url
  | none, none => .ok ()
  | none, some url =>
    if given.url.isNone ∨ old.repoType = some .unmanaged then .ok () else checkSplit url

/-- Why a deploy key is refused for a repository of a type. -/
def checkDeployKey (type : Option RepoType) : Option String → Except ChangeError Unit
  | none => .ok ()
  | some key =>
    if (readDeployKey key).isNone then .error .malformedDeployKey
    else if type = some .auto then .ok ()
    else .error .unmanagedRepoDeployKey

/-- The repository `old` with what a client names of it. -/
def mergeRepo (old given : GitRepo) : Except ChangeError GitRepo := do
  (checkUrl old given).mapError .invalidRepoUrl
  checkDeployKey (mergeType old given) given.deployKey
  return {
    url := mergeText old.url given.url
    hostKeys := mergeText old.hostKeys given.hostKeys
    repoType := mergeType old given
    deployKey := mergeDeployKey old given }

/-! ### Texts -/

theorem nonEmpty_getD (old : String) (given : Option String) :
    nonEmpty (given.getD old) = mergeText (nonEmpty old) given := by
  cases given <;> rfl

/-! ### Templates -/

/-- What clients see of a repository. -/
def shownRepo (url hostKeys : String) (template : Option RepoTemplate) : GitRepo where
  url := nonEmpty url
  hostKeys := nonEmpty hostKeys
  repoType := template.map (·.repoType)
  deployKey := deployKey? template

theorem resolveRepo_eq (url name : String) (hostKeys key : Option String) {type : Option RepoType}
    (h : type ≠ some .unmanaged) :
    resolveRepo ⟨nonEmpty url, hostKeys, type, key⟩ name =
      match nonEmpty url with
      | none =>
        if type.isNone then .ok none else .error ⟨"", "a managed repository requires a URL"⟩
      | some url => (splitRepoUrl url).map (fun s =>
        some { RepoTemplate.managed s.1 s.2 with displayName := name }) := by
  unfold resolveRepo
  dsimp only
  rw [if_neg h, bind_nonEmpty]
  cases nonEmpty url with
  | none => rfl
  | some url => cases splitRepoUrl url <;> rfl

/-- What clients see of the template after they named a URL or a type. -/
theorem shown_updateTemplate (repo : GitRepo) (url hostKeys name : String)
    (template : Option RepoTemplate) :
    (updateTemplate template { repo with url := nonEmpty (repo.url.getD url) } repo.url.isSome
        name).map (fun t => (t.map (·.repoType), deployKey? t)) =
      (checkUrl (shownRepo url hostKeys template) repo).map (fun _ =>
        (mergeType (shownRepo url hostKeys template) repo,
          if repo.repoType = some .unmanaged then none else deployKey? template)) := by
  have hurl : mergeText (shownRepo url hostKeys template).url repo.url =
      nonEmpty (repo.url.getD url) := (nonEmpty_getD url repo.url).symm
  obtain ⟨given, givenKeys, type, key⟩ := repo
  unfold checkUrl mergeType
  rw [hurl]
  dsimp only
  cases type with
  | some type =>
      cases type with
      | unmanaged => cases template <;> rfl
      | auto =>
          unfold updateTemplate
          dsimp only
          rw [resolveRepo_eq _ _ _ _ (by decide)]
          cases nonEmpty (given.getD url) with
          | none => cases template <;> rfl
          | some u =>
              dsimp only
              unfold checkSplit
              cases splitRepoUrl u <;> cases template <;> rfl
  | none =>
      cases given with
      | none =>
          -- nothing is named, and whatever the template is it stays
          rcases template with _ | ⟨_, _, _, _, _ | _, _⟩ <;> cases hu : nonEmpty url <;>
            simp [updateTemplate, shownRepo, hu, Except.map, pure, Except.pure, RepoTemplate.isManaged]
      | some v =>
          rcases template with _ | ⟨secret, keys, path, repoName, _ | _, displayName⟩
          case some.unmanaged =>
            -- a repository that is left alone stays so
            rw [Option.getD_some]
            cases nonEmpty v <;> rfl
          all_goals
            unfold updateTemplate
            dsimp only
            rw [resolveRepo_eq _ _ _ _ (by decide), Option.getD_some, Option.bind_some]
            cases nonEmpty v with
            | none => rfl
            | some u =>
                dsimp only
                unfold checkSplit
                cases splitRepoUrl u <;> rfl

/-- What is refused of a deploy key depends on the type alone. -/
theorem addDeployKey_map (template : Option RepoTemplate) (key : String) :
    (addDeployKey template key).map (fun t => (some t.repoType, deployKey? (some t))) =
      (checkDeployKey (template.map (·.repoType)) (some key)).map
        (fun _ => (template.map (·.repoType), some key)) := by
  unfold addDeployKey checkDeployKey
  dsimp only
  cases hread : readDeployKey key with
  | none => rfl
  | some words =>
      obtain ⟨type, word⟩ := words
      rcases template with _ | ⟨secret, keys, path, repoName, _ | _, displayName⟩
      · rfl
      · have hkey : (keys.insert deployKeyName ⟨type, word, true⟩).get? deployKeyName =
            some ⟨type, word, true⟩ := by
          rw [Dict.get?_insert, if_pos rfl]
        have hwords : type ++ " " ++ word = key := (readDeployKey_eq_some_iff.1 hread).2.2.symm
        simp [Except.map, RepoTemplate.isManaged, deployKey?, hkey, hwords]
      · rfl

/-- What clients see of a repository after a change is what they named, laid over what they saw
before. -/
theorem shown_nextTemplate (repo : GitRepo) (url hostKeys name : String)
    (template : Option RepoTemplate) :
    (nextTemplate repo (repo.url.getD url) name template).map
        (shownRepo (repo.url.getD url) (repo.hostKeys.getD hostKeys)) =
      mergeRepo (shownRepo url hostKeys template) repo := by
  unfold nextTemplate mergeRepo
  rcases Result.cases_of_map_eq_map (shown_updateTemplate repo url hostKeys name template) with
    ⟨e, hupdate, hcheck⟩ | ⟨t, _, hupdate, hcheck, hshown⟩
  · rw [hupdate, hcheck]
    rfl
  · obtain ⟨htype, hkey⟩ := Prod.mk.inj hshown
    rw [hupdate, hcheck, ← htype]
    have hmerged : ∀ t', t'.map (·.repoType) = t.map (·.repoType) →
        deployKey? t' = mergeDeployKey (shownRepo url hostKeys template) repo →
        shownRepo (repo.url.getD url) (repo.hostKeys.getD hostKeys) t' = {
          url := mergeText (shownRepo url hostKeys template).url repo.url
          hostKeys := mergeText (shownRepo url hostKeys template).hostKeys repo.hostKeys
          repoType := t.map (·.repoType)
          deployKey := mergeDeployKey (shownRepo url hostKeys template) repo } := by
      intro t' htype' hkey'
      unfold shownRepo
      rw [nonEmpty_getD, nonEmpty_getD, htype', hkey']
      rfl
    cases hgiven : repo.deployKey with
    | none =>
        refine congrArg Except.ok (hmerged t rfl (hkey.trans ?_))
        unfold mergeDeployKey
        rw [hgiven, Option.none_or]
        rfl
    | some key =>
        change (addDeployKey t key >>= fun t => .ok (some t)).map _ =
          checkDeployKey (t.map (·.repoType)) (some key) >>= fun _ => .ok _
        rcases Result.cases_of_map_eq_map (addDeployKey_map t key) with
          ⟨e, hadd, hallowed⟩ | ⟨t', _, hadd, hallowed, hshown⟩
        · rw [hadd, hallowed]
          rfl
        · obtain ⟨htype', hkey'⟩ := Prod.mk.inj hshown
          have hmergedKey : mergeDeployKey (shownRepo url hostKeys template) repo = some key := by
            unfold mergeDeployKey
            rw [hgiven, Option.some_or]
          rw [hadd, hallowed]
          exact congrArg Except.ok (hmerged (some t') htype' (hkey'.trans hmergedKey.symm))

end Fleet.Exchange

import Fleet.Exchange.Change
import Fleet.Fact
import Fleet.Record.Repo
import Fleet.Url.Location

/-! # Repositories between records and stored objects

A stored object keeps the URL of its repository and a template for the git controller, which knows
the repository by path and name.  The template is derived from the URL whenever a client names a
URL or a type; a template that is left alone stays so until a client names another type. -/

namespace Fleet.Exchange

open Record Resource

/-- A name without one `.git` at its end. -/
def withoutGit (name : String) : String :=
  let cs := name.toList
  if ".git".toList.isSuffixOf cs then String.ofList (cs.take (cs.length - 4)) else name

/-- The path and name that a repository URL stands for; the path is not empty. -/
def splitRepoUrl (url : String) : Except InvalidRepoUrl (String × String) := do
  let location ← (Url.Location.parse url).mapError (fun e => ⟨url, e.message⟩)
  let segments := (location.segments.getD []).filter (fun s => !s.isEmpty)
  match segments.getLast? with
  | none => throw ⟨url, "URL has no path"⟩
  | some last =>
    if segments.length < 2 then
      throw ⟨url, "path needs at least a group and a repository name"⟩
    return ("/".intercalate segments.dropLast, withoutGit last)

/-- The template of a repository as a client names it; `name` is shown for it.  Without URL and
type there is none. -/
def resolveRepo (repo : GitRepo) (name : String) : Except InvalidRepoUrl (Option RepoTemplate) :=
  if repo.repoType = some .unmanaged then .ok (some .unmanaged)
  else
    match repo.url.bind nonEmpty with
    | none =>
      if repo.repoType.isNone then .ok none
      else .error ⟨"", "a managed repository requires a URL"⟩
    | some url => do
      let (path, repoName) ← splitRepoUrl url
      return some { RepoTemplate.managed path repoName with displayName := name }

/-- The template after a client named a repository.  `repo` carries the URL in force; `urlGiven`
tells whether the client gave it. -/
def updateTemplate (template : Option RepoTemplate) (repo : GitRepo) (urlGiven : Bool)
    (name : String) : Except InvalidRepoUrl (Option RepoTemplate) := do
  let typeGiven := repo.repoType.isSome
  let leftAlone := !typeGiven && template.any (fun t => !t.isManaged)
  if leftAlone || !(typeGiven || urlGiven) then return template
  match ← resolveRepo repo name, template with
  | none, _ => return template
  | some resolved, none => return some resolved
  | some resolved, some old =>
    if resolved.isManaged then
      return some { old with
        repoType := .auto
        path := resolved.path
        repoName := resolved.repoName
        displayName := if old.displayName.isEmpty then resolved.displayName else old.displayName }
    else
      return some { old with
        repoType := .unmanaged, path := "", repoName := "", deployKeys := .empty }

/-- The name of the deploy key that clients may set. -/
def deployKeyName : String := "steward"

/-- The type and key that a deploy key names: two words with one blank between them. -/
def readDeployKey (s : String) : Option (String × String) :=
  match Text.splitOn (· == ' ') s.toList with
  | [type, key] =>
    if type.isEmpty || key.isEmpty then none else some (String.ofList type, String.ofList key)
  | _ => none

/-- The template with a deploy key that may write. -/
def addDeployKey (template : Option RepoTemplate) (deployKey : String) :
    Except ChangeError RepoTemplate :=
  match readDeployKey deployKey with
  | none => .error .malformedDeployKey
  | some (type, key) =>
    match template with
    | some t =>
      if t.isManaged then
        .ok { t with deployKeys := t.deployKeys.insert deployKeyName ⟨type, key, true⟩ }
      else .error .unmanagedRepoDeployKey
    | none => .error .unmanagedRepoDeployKey

/-- The deploy key that clients may set, as they write it. -/
def deployKey? (template : Option RepoTemplate) : Option String :=
  (template.bind (·.deployKeys.get? deployKeyName)).map (fun k => k.keyType ++ " " ++ k.key)

/-- Takes a repository over into the template of an object.  `url` is the URL now in force. -/
def takeTemplate {ρ : Type} (repo : GitRepo) (url : ρ → String) (name : String)
    (get : ρ → Option RepoTemplate) (set : Option RepoTemplate → ρ → ρ) : Change ρ Unit := do
  let r ← getThe ρ
  let repo' : GitRepo := { repo with url := nonEmpty (url r) }
  let template ←
    (updateTemplate (get r) repo' repo.url.isSome name).mapError ChangeError.invalidRepoUrl
  modify (set template)
  match repo.deployKey with
  | none => return
  | some key =>
    let template ← (addDeployKey template key : Except ChangeError RepoTemplate)
    modify (set (some template))

/-- A map of texts with the facts that are texts laid over it; without any it stays as it is. -/
def mergeTexts (d : Option (Dict String)) (facts : Facts) : Option (Dict String) :=
  if facts.texts.isEmpty then d else some ((d.getD .empty).overlay facts.texts)

end Fleet.Exchange

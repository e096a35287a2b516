import Fleet.Resource.Repo

/-! # Repositories in public records -/

namespace Fleet.Record

open Json

/-- A configuration repository, as far as a client names it. -/
structure GitRepo where
  url : Option String := none
  /-- The keys that the git server is known by. -/
  hostKeys : Option String := none
  repoType : Option RepoType := none
  /-- A deploy key: its type and the key, with a blank between them. -/
  deployKey : Option String := none
  deriving DecidableEq

namespace GitRepo

/-- Repositories as objects. -/
def layout : Layout GitRepo where
  name := "GitRepo"
  blank := {}
  fields := [
    .optional "url" .text (·.url) (fun v r => { r with url := v }),
    .optional "hostKeys" .text (·.hostKeys) (fun v r => { r with hostKeys := v }),
    .optional "type" RepoType.codec (·.repoType) (fun v r => { r with repoType := v }),
    .optional "deployKey" .text (·.deployKey) (fun v r => { r with deployKey := v })]

/-- The repository unless it names nothing. -/
def nonEmpty (r : GitRepo) : Option GitRepo := if r = {} then none else some r

end GitRepo

/-- A repository with a revision. -/
structure RevisionedGitRepo where
  repo : GitRepo := {}
  revision : Option String := none
  deriving DecidableEq

namespace RevisionedGitRepo

/-- Repositories with a revision as objects; the revision stands among the other fields. -/
def layout : Layout RevisionedGitRepo where
  name := "RevisionedGitRepo"
  blank := {}
  fields := [.optional "revision" .text (·.revision) (fun v r => { r with revision := v })]
  parts := [GitRepo.layout.fields.map
    (·.within RevisionedGitRepo.repo (fun v r => { r with repo := v }))]

/-- The repository unless it names nothing. -/
def nonEmpty (r : RevisionedGitRepo) : Option RevisionedGitRepo := if r = {} then none else some r

end RevisionedGitRepo

/-- A text unless it is empty. -/
def nonEmpty (s : String) : Option String := if s.isEmpty then none else some s

end Fleet.Record

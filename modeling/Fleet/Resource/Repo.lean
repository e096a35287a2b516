import Fleet.Json.Layout

/-! # Repository templates

What the git controller is told about the configuration repository of a tenant or cluster. -/

namespace Fleet

/-- Whether the git controller manages a repository. -/
inductive RepoType where
  /-- It does. -/
  | auto
  /-- It leaves the repository alone. -/
  | unmanaged
  deriving DecidableEq, Repr

namespace RepoType

/-- The name of a repository type. -/
def name : RepoType → String
  | .auto => "auto"
  | .unmanaged => "unmanaged"

/-- The repository types by name. -/
def all : List (String × RepoType) := [("auto", .auto), ("unmanaged", .unmanaged)]

/-- Repository types in both directions. -/
def codec : Json.Codec RepoType := .choice all name

end RepoType

namespace Resource

open Json

/-- A secret with credentials for the git host. -/
structure SecretRef where
  name : String := ""
  ns : String := ""
  deriving DecidableEq

/-- References to secrets as objects. -/
def SecretRef.layout : Layout SecretRef where
  name := "SecretRef"
  blank := {}
  fields := [
    .textOrEmpty "name" (·.name) (fun v r => { r with name := v }),
    .textOrEmpty "namespace" (·.ns) (fun v r => { r with ns := v })]

/-- A public key that may access a repository. -/
structure DeployKey where
  /-- The kind of key. -/
  keyType : String
  /-- The public key. -/
  key : String
  /-- Whether it may also write. -/
  writeAccess : Bool
  deriving DecidableEq

/-- Deploy keys as objects. -/
def DeployKey.layout : Layout DeployKey where
  name := "DeployKey"
  blank := ⟨"", "", false⟩
  fields := [
    .required "type" .text (·.keyType) (fun v r => { r with keyType := v }),
    .required "key" .text (·.key) (fun v r => { r with key := v }),
    .defaulted "writeAccess" .bool (·.writeAccess) (fun v r => { r with writeAccess := v })]

/-- What the git controller knows of a repository; one that it does not manage has neither path
nor name. -/
structure RepoTemplate where
  apiSecretRef : SecretRef := {}
  deployKeys : Dict DeployKey := .empty
  /-- The group that the repository belongs to. -/
  path : String := ""
  repoName : String := ""
  repoType : RepoType := .auto
  displayName : String := ""
  deriving DecidableEq

namespace RepoTemplate

/-- Repository templates as objects. -/
def layout : Layout RepoTemplate where
  name := "GitRepoTemplate"
  blank := {}
  fields := [
    .defaulted "apiSecretRef" SecretRef.layout.codec (·.apiSecretRef)
      (fun v r => { r with apiSecretRef := v }),
    .dictOrEmpty "deployKeys" DeployKey.layout.codec (·.deployKeys)
      (fun v r => { r with deployKeys := v }),
    .textOrEmpty "path" (·.path) (fun v r => { r with path := v }),
    .textOrEmpty "repoName" (·.repoName) (fun v r => { r with repoName := v }),
    .defaulted "repoType" RepoType.codec (·.repoType) (fun v r => { r with repoType := v }),
    .textOrEmpty "displayName" (·.displayName) (fun v r => { r with displayName := v })]

/-- The template of a managed repository. -/
def managed (path repoName : String) : RepoTemplate := { path, repoName }

/-- The template of a repository that is left alone. -/
def unmanaged : RepoTemplate := { repoType := .unmanaged }

/-- Whether the git controller manages the repository. -/
def isManaged (t : RepoTemplate) : Bool := t.repoType = .auto

end RepoTemplate
end Resource
end Fleet

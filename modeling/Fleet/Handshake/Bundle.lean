import Fleet.Json.Value

/-! # The manifests of the agent

What a new cluster applies to run the agent: its namespace, the rights it has, its account, the
secret with the token that it reports with, and its deployment, in the order in which they can be
applied. -/

namespace Fleet.Handshake

open Json

/-- What the manifests of a cluster depend on. -/
structure BundleSpec where
  /-- Where the agent reports to. -/
  apiUrl : String
  cluster : String
  /-- The token that the agent reports with. -/
  token : String
  image : String
  deriving DecidableEq, Repr

/-- The name of the agent, its account, its secret and its deployment. -/
def agent : String := "steward"

/-- The namespace of the agent. -/
def agentNamespace : String := "syn"

/-- The role with all rights. -/
def adminRole : String := "syn-admin"

/-- What gives that role to the agent. -/
def adminBinding : String := "syn-steward"

/-- The key of the token in the secret. -/
def tokenKey : String := "token"

/-- The group of the kinds of role. -/
def rbac : String := "rbac.authorization.k8s.io"

/-- The labels of all objects of the agent. -/
def labels : Value := .ofMembers [("app.kubernetes.io/name", .string agent)]

/-- An object of a kind. -/
def manifest (apiVersion kind name : String) (isNamespaced : Bool)
    (more : List (String × Value)) : Value :=
  .ofMembers ([("apiVersion", .string apiVersion), ("kind", .string kind),
    ("metadata", .ofMembers
      ((if isNamespaced then [("namespace", .string agentNamespace)] else []) ++
        [("name", .string name), ("labels", labels)]))] ++ more)

/-- Everything of a sort. -/
def everything : Value := .array [.string "*"]

/-- The role with all rights. -/
def roleManifest : Value :=
  manifest (rbac ++ "/v1") "ClusterRole" adminRole false [("rules", .array [
    .ofMembers [("apiGroups", everything), ("resources", everything), ("verbs", everything)],
    .ofMembers [("nonResourceURLs", everything), ("verbs", everything)]])]

/-- What gives the role to the account of the agent. -/
def bindingManifest : Value :=
  manifest (rbac ++ "/v1") "ClusterRoleBinding" adminBinding false [
    ("roleRef", .ofMembers [("apiGroup", .string rbac), ("kind", .string "ClusterRole"),
      ("name", .string adminRole)]),
    ("subjects", .array [.ofMembers [("kind", .string "ServiceAccount"), ("name", .string agent),
      ("namespace", .string agentNamespace)]])]

/-- A variable of the agent. -/
def envEntry (name : String) (source : String × Value) : Value :=
  .ofMembers [("name", .string name), source]

/-- The environment of the agent. -/
def environment (s : BundleSpec) : Value := .array [
  envEntry "STEWARD_API" ("value", .string s.apiUrl),
  envEntry "STEWARD_CLUSTER_ID" ("value", .string s.cluster),
  envEntry "STEWARD_TOKEN" ("valueFrom", .ofMembers [
    ("secretKeyRef", .ofMembers [("key", .string tokenKey), ("name", .string agent)])])]

/-- The deployment of the agent. -/
def deploymentManifest (s : BundleSpec) : Value :=
  manifest "apps/v1" "Deployment" agent true [("spec", .ofMembers [
    ("replicas", .ofInt 1),
    ("selector", .ofMembers [("matchLabels", labels)]),
    ("template", .ofMembers [
      ("metadata", .ofMembers [("labels", labels)]),
      ("spec", .ofMembers [
        ("serviceAccountName", .string agent),
        ("containers", .array [.ofMembers [("name", .string agent), ("image", .string s.image),
          ("env", environment s)]])])])])]

/-- The manifests of a cluster. -/
def bundle (s : BundleSpec) : Value :=
  .ofMembers [("apiVersion", .string "v1"), ("kind", .string "List"), ("metadata", .ofMembers []),
    ("items", .array [
      manifest "v1" "Namespace" agentNamespace false [],
      roleManifest,
      bindingManifest,
      manifest "v1" "ServiceAccount" agent true [],
      manifest "v1" "Secret" agent true [
        ("stringData", .ofMembers [(tokenKey, .string s.token)])],
      deploymentManifest s])]

end Fleet.Handshake

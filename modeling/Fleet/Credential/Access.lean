import Fleet.Text.Blank

/-! # Who may ask for what

A request is public, or carries a bootstrap token that is checked later, or acts with the bearer
token of its caller. -/

namespace Fleet.Credential

/-- How a path is protected. -/
inductive Access where
  /-- Not at all. -/
  | anyone
  /-- By the bootstrap token in the query. -/
  | bootstrapToken
  /-- By the caller's bearer token. -/
  | caller
  deriving DecidableEq, Repr

/-- The paths that anyone may ask for. -/
def openPaths : List String := ["/healthz", "/metrics", "/openapi.json", "/docs"]

/-- The end of the paths that a bootstrap token protects. -/
def installPath : String := "/install/steward.json"

/-- How a path is protected. -/
def Access.of (path : String) : Access :=
  if openPaths.contains path then .anyone
  else if installPath.toList.isSuffixOf path.toList then .bootstrapToken
  else .caller

/-- How the value of an authorization header starts. -/
def scheme : List Char := "Bearer ".toList

/-- The bearer token that an authorization header carries: what follows the scheme, without the
blanks around it, unless that is empty. -/
def bearerToken? (header : Option String) : Option String := do
  let cs := (← header).toList
  if !scheme.isPrefixOf cs then failure
  let token := Text.trim (cs.drop scheme.length)
  if token.isEmpty then failure
  return String.ofList token

end Fleet.Credential

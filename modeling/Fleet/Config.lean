import Fleet.Credential.Cache
import Fleet.Dict
import Fleet.Text.Blank

/-! # Settings

The settings of the service, each with a default, read from named variables. -/

namespace Fleet

/-- The settings of the service. -/
structure Config where
  /-- The namespace of all objects. -/
  ns : String := "default"
  /-- How many clients are cached. -/
  cacheSize : Nat := Credential.defaultCapacity
  /-- The name of this instance, noted on every new cluster. -/
  instanceName : String := ""
  /-- The secret with credentials for the git host, for new tenants. -/
  apiSecretRefName : Option String := none
  /-- The path of the repositories of tenants without a URL. -/
  tenantRepoPath : Option String := none
  /-- The image of the agent. -/
  image : String := "docker.io/projectsyn/steward:v0.12.0"
  port : Nat := 8080
  logLevel : String := "info"
  logFormat : String := "text"
  deriving DecidableEq, Repr

namespace Config

/-- The number that decimal digits write. -/
def digits? (cs : List Char) : Option Nat :=
  if cs.isEmpty || !cs.all Char.isDigit then none
  else some (cs.foldl (fun n c => n * 10 + (c.toNat - '0'.toNat)) 0)

/-- The number that decimal digits write, with or without a sign. -/
def integer? : List Char → Option Int
  | '-' :: cs => (digits? cs).map (fun n => -(n : Int))
  | '+' :: cs => (digits? cs).map Int.ofNat
  | cs => (digits? cs).map Int.ofNat

/-- The size of the cache that a text asks for: a positive integer of at most 64 bits, else the
default. -/
def readCacheSize (raw : Option String) : Nat :=
  match raw.bind (fun s => integer? (Text.trim s.toList)) with
  | some i => if 0 < i ∧ i < 9223372036854775808 then i.toNat else Credential.defaultCapacity
  | none => Credential.defaultCapacity

/-- The port that a text asks for: an integer of 16 bits without a minus sign. -/
def readPort? (s : String) : Option Nat :=
  let n? :=
    match s.toList with
    | '+' :: cs => digits? cs
    | cs => digits? cs
  n?.filter (· < 65536)

/-- Reads the settings from variables. -/
def ofVariables (vars : Dict String) : Config :=
  let standard : Config := {}
  { ns := ((vars.get? "NAMESPACE").filter (fun s => !s.isEmpty)).getD standard.ns
    cacheSize := readCacheSize (vars.get? "K8S_AUTH_CLIENT_CACHE_SIZE")
    instanceName := (vars.get? "LIEUTENANT_INSTANCE").getD standard.instanceName
    apiSecretRefName := vars.get? "DEFAULT_API_SECRET_REF_NAME"
    tenantRepoPath := (vars.get? "DEFAULT_TENANT_REPO_PATH").filter (fun s => !s.isEmpty)
    image := (vars.get? "STEWARD_IMAGE").getD standard.image
    port := ((vars.get? "PORT").bind readPort?).getD standard.port
    logLevel := (vars.get? "LOG_LEVEL").getD standard.logLevel
    logFormat := (vars.get? "LOG_FORMAT").getD standard.logFormat }

/-- Whether logs are written as JSON. -/
def jsonLogs (c : Config) : Bool := c.logFormat.map Char.toLower == "json"

end Config
end Fleet

import Fleet.Json.Layout

/-! # Compile metadata

What is stored about the last compilation of a cluster's catalog. -/

namespace Fleet.Resource

open Json

/-- The version of the compiler. -/
structure BuildInfo where
  version : String := ""
  gitVersion : String := ""
  deriving DecidableEq

/-- Compiler versions as objects. -/
def BuildInfo.layout : Layout BuildInfo where
  name := "CommodoreBuildInfo"
  blank := {}
  fields := [
    .textOrEmpty "version" (·.version) (fun v r => { r with version := v }),
    .textOrEmpty "gitVersion" (·.gitVersion) (fun v r => { r with gitVersion := v })]

/-- The version of a source that went into a compilation. -/
structure VersionInfo where
  url : String := ""
  gitSha : String := ""
  version : String := ""
  path : String := ""
  deriving DecidableEq

/-- Versions as objects. -/
def VersionInfo.layout : Layout VersionInfo where
  name := "CompileMetaVersionInfo"
  blank := {}
  fields := [
    .textOrEmpty "url" (·.url) (fun v r => { r with url := v }),
    .textOrEmpty "gitSha" (·.gitSha) (fun v r => { r with gitSha := v }),
    .textOrEmpty "version" (·.version) (fun v r => { r with version := v }),
    .textOrEmpty "path" (·.path) (fun v r => { r with path := v })]

/-- The version of an instance of a component. -/
structure InstanceInfo where
  component : String := ""
  version : VersionInfo := {}
  deriving DecidableEq

/-- Versions of instances as objects; the version stands among the fields of the instance. -/
def InstanceInfo.layout : Layout InstanceInfo where
  name := "CompileMetaInstanceVersionInfo"
  blank := {}
  fields := [.textOrEmpty "component" (·.component) (fun v r => { r with component := v })]
  parts := [VersionInfo.layout.fields.map
    (·.within InstanceInfo.version (fun v r => { r with version := v }))]

/-- Metadata of the last compilation. -/
structure CompileMeta where
  lastCompile : Option Instant := none
  buildInfo : Option BuildInfo := none
  global : Option VersionInfo := none
  tenant : Option VersionInfo := none
  instances : Dict InstanceInfo := .empty
  packages : Dict VersionInfo := .empty
  deriving DecidableEq

/-- Compile metadata as objects. -/
def CompileMeta.layout : Layout CompileMeta where
  name := "CompileMeta"
  blank := {}
  fields := [
    .optional "lastCompile" .instant (·.lastCompile) (fun v r => { r with lastCompile := v }),
    .optional "commodoreBuildInfo" BuildInfo.layout.codec (·.buildInfo)
      (fun v r => { r with buildInfo := v }),
    .optional "global" VersionInfo.layout.codec (·.global) (fun v r => { r with global := v }),
    .optional "tenant" VersionInfo.layout.codec (·.tenant) (fun v r => { r with tenant := v }),
    .dictOrEmpty "instances" InstanceInfo.layout.codec (·.instances)
      (fun v r => { r with instances := v }),
    .dictOrEmpty "packages" VersionInfo.layout.codec (·.packages)
      (fun v r => { r with packages := v })]

end Fleet.Resource

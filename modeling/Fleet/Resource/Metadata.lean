import Fleet.Json.Layout

/-! # Metadata of stored objects

The part that every stored object has: its name, its labels and annotations, and what the store
writes itself.  A map or list that is absent differs from an empty one. -/

namespace Fleet.Resource

open Json

/-- A 64-bit signed integer. -/
def int64 : Codec Int where
  decode
    | _, .number n => do
      match ← malformed n with
      | .integer i h =>
        if i < 9223372036854775808 then .ok i
        else .error (.invalidValue (.number (.integer i h)) (.integer "i64"))
      | .double d => .error (.invalidType (.number (.double d)) (.integer "i64"))
    | _, d => mismatch (.integer "i64") d
  encode := .ofInt

/-- An instant that is written without its fraction. -/
def wholeInstant : Codec Instant := ⟨instant, fun t => .string t.printWhole⟩

/-- An object that this one belongs to. -/
structure OwnerReference where
  apiVersion : String := ""
  blockOwnerDeletion : Option Bool := none
  controller : Option Bool := none
  kind : String := ""
  name : String := ""
  uid : String := ""
  deriving DecidableEq

/-- A text that is read as empty when absent or null, and always written. -/
def nullableText {ρ : Type} (key : String) (get : ρ → String) (set : String → ρ → ρ) : Json.Field ρ :=
  .nullable key .text "" (fun _ => false) get set

/-- Owner references as objects. -/
def OwnerReference.layout : Layout OwnerReference where
  name := "OwnerReference"
  blank := {}
  loose := true
  fields := [
    nullableText "apiVersion" (·.apiVersion) (fun v r => { r with apiVersion := v }),
    .optional "blockOwnerDeletion" .bool (·.blockOwnerDeletion)
      (fun v r => { r with blockOwnerDeletion := v }),
    .optional "controller" .bool (·.controller) (fun v r => { r with controller := v }),
    nullableText "kind" (·.kind) (fun v r => { r with kind := v }),
    nullableText "name" (·.name) (fun v r => { r with name := v }),
    nullableText "uid" (·.uid) (fun v r => { r with uid := v })]

/-- A set of fields and who manages it. -/
structure ManagedFields where
  apiVersion : Option String := none
  fieldsType : Option String := none
  fields : Option Value := none
  manager : Option String := none
  operation : Option String := none
  subresource : Option String := none
  time : Option Instant := none
  deriving DecidableEq

/-- Sets of managed fields as objects. -/
def ManagedFields.layout : Layout ManagedFields where
  name := "ManagedFieldsEntry"
  blank := {}
  loose := true
  fields := [
    .optional "apiVersion" .text (·.apiVersion) (fun v r => { r with apiVersion := v }),
    .optional "fieldsType" .text (·.fieldsType) (fun v r => { r with fieldsType := v }),
    .optional "fieldsV1" .any (·.fields) (fun v r => { r with fields := v }),
    .optional "manager" .text (·.manager) (fun v r => { r with manager := v }),
    .optional "operation" .text (·.operation) (fun v r => { r with operation := v }),
    .optional "subresource" .text (·.subresource) (fun v r => { r with subresource := v }),
    .optional "time" wholeInstant (·.time) (fun v r => { r with time := v })]

/-- The metadata of a stored object. -/
structure Metadata where
  annotations : Option (Dict String) := none
  /-- When the object was created. -/
  created : Option Instant := none
  deletionGraceSeconds : Option Int := none
  deleted : Option Instant := none
  finalizers : Option (List String) := none
  /-- What the store was asked to start a generated name with. -/
  generateName : Option String := none
  generation : Option Int := none
  labels : Option (Dict String) := none
  managedFields : Option (List ManagedFields) := none
  name : Option String := none
  /-- The namespace that holds the object. -/
  ns : Option String := none
  owners : Option (List OwnerReference) := none
  /-- The revision that the store gave to the last write of the object. -/
  revision : Option String := none
  selfLink : Option String := none
  uid : Option String := none
  deriving DecidableEq

namespace Metadata

/-- Metadata as an object. -/
def layout : Layout Metadata where
  name := "ObjectMeta"
  blank := {}
  loose := true
  fields := [
    .optional "annotations" (.dict .text) (·.annotations)
      (fun v r => { r with annotations := v }),
    .optional "creationTimestamp" wholeInstant (·.created) (fun v r => { r with created := v }),
    .optional "deletionGracePeriodSeconds" int64 (·.deletionGraceSeconds)
      (fun v r => { r with deletionGraceSeconds := v }),
    .optional "deletionTimestamp" wholeInstant (·.deleted) (fun v r => { r with deleted := v }),
    .optional "finalizers" (.list .text) (·.finalizers) (fun v r => { r with finalizers := v }),
    .optional "generateName" .text (·.generateName) (fun v r => { r with generateName := v }),
    .optional "generation" int64 (·.generation) (fun v r => { r with generation := v }),
    .optional "labels" (.dict .text) (·.labels) (fun v r => { r with labels := v }),
    .optional "managedFields" (.list ManagedFields.layout.codec) (·.managedFields)
      (fun v r => { r with managedFields := v }),
    .optional "name" .text (·.name) (fun v r => { r with name := v }),
    .optional "namespace" .text (·.ns) (fun v r => { r with ns := v }),
    .optional "ownerReferences" (.list OwnerReference.layout.codec) (·.owners)
      (fun v r => { r with owners := v }),
    .optional "resourceVersion" .text (·.revision) (fun v r => { r with revision := v }),
    .optional "selfLink" .text (·.selfLink) (fun v r => { r with selfLink := v }),
    .optional "uid" .text (·.uid) (fun v r => { r with uid := v })]

/-- Metadata in both directions. -/
def codec : Codec Metadata := layout.codec

/-- What the object is called: its name, else the start of the name to generate, else nothing. -/
def nameAny (m : Metadata) : String := (m.name.or m.generateName).getD ""

/-- Sets a label. -/
def setLabel (m : Metadata) (key value : String) : Metadata :=
  { m with labels := some ((m.labels.getD .empty).insert key value) }

end Metadata
end Fleet.Resource

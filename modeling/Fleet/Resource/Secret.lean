import Fleet.Resource.Metadata
import Fleet.Text.Base64
import Fleet.Text.Utf8

/-! # Stored secrets -/

namespace Fleet.Resource

open Json

/-- Bytes, written in base 64. -/
def bytes : Codec (List UInt8) where
  decode
    | _, .null => .ok []
    | _, .string s => do
      let s ← malformed s
      Except.mapError (fun e => .invalidBase64 e.message) (Text.Base64.decode (Text.encode s))
    | _, d => mismatch (.plain "a base64-encoded string") d
  encode b := .string (String.ofList (Text.Base64.encode b))

/-- A field that only one text may fill. -/
def constant {ρ : Type} (key value : String) : Json.Field ρ where
  key := key
  presence := .defaulted
  get := fun _ => ()
  set := fun _ r => r
  decode := fun origin d => do
    let s ← Json.text origin d
    if s = value then .ok () else .error (.unexpectedText s value)
  encode := fun _ => some (.string value)

/-- A stored secret. -/
structure Secret where
  data : Option (Dict (List UInt8)) := none
  isImmutable : Option Bool := none
  metadata : Metadata := {}
  stringData : Option (Dict String) := none
  /-- What kind of secret it is. -/
  type : Option String := none
  deriving DecidableEq

namespace Secret

/-- Secrets as objects. -/
def layout : Layout Secret where
  name := "Secret"
  blank := {}
  loose := true
  fields := [
    constant "apiVersion" "v1",
    constant "kind" "Secret",
    .optional "data" (.dict bytes) (·.data) (fun v r => { r with data := v }),
    .optional "immutable" .bool (·.isImmutable) (fun v r => { r with isImmutable := v }),
    .nullable "metadata" Metadata.codec {} (fun _ => false) (·.metadata)
      (fun v r => { r with metadata := v }),
    .optional "stringData" (.dict .text) (·.stringData) (fun v r => { r with stringData := v }),
    .optional "type" .text (·.type) (fun v r => { r with type := v })]

/-- Secrets in both directions. -/
def codec : Codec Secret := layout.codec

end Secret
end Fleet.Resource

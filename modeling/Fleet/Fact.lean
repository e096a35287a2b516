import Fleet.Json.Layout

/-! # Facts

Annotations, facts and dynamic facts may be any JSON value.  Annotations and facts keep their
texts only; dynamic facts are stored as JSON texts and read back, where a stored text that is not
JSON stands for itself. -/

namespace Fleet

open Json

/-- Facts by name. -/
abbrev Facts := Dict Value

namespace Fact

/-- The kinds of fact. -/
inductive Kind where
  | text
  | bool
  | number
  /-- An object, an array or null. -/
  | json
  deriving DecidableEq, Repr

/-- The kind of a fact. -/
def kind : Value → Kind
  | .string _ => .text
  | .bool _ => .bool
  | .number _ => .number
  | .null | .array _ | .object _ => .json

/-- The text that a fact is, if it is one. -/
def text? : Value → Option String
  | .string s => some s
  | _ => none

/-- The JSON text that stores a dynamic fact. -/
def encode (v : Value) : String := v.render

/-- The dynamic fact that a text stores. -/
def decode (raw : String) : Value :=
  match parse (.ofString raw) with
  | .ok v => v
  | .error _ => .string raw

end Fact

namespace Facts

/-- The facts that are texts. -/
def texts (facts : Facts) : Dict String := facts.filterMap Fact.text?

/-- Texts as facts; none at all if there are none. -/
def ofTexts (d : Dict String) : Option Facts := if d.isEmpty then none else some (d.map .string)

/-- Facts in both directions. -/
def codec : Codec Facts := .dict .any

end Facts
end Fleet

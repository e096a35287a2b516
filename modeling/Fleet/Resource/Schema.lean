import Fleet.Json.Value

/-! # Schemas of stored objects

A `Schema` says what a value of a stored object may be; its JSON form is what an API server is
given to validate objects with.  A schema is closed: one that uses another holds a copy of it. -/

namespace Fleet.Resource

open Json

/-- What a value may be. -/
inductive Schema where
  | text
  | flag
  /-- One of some texts. -/
  | choice (texts : List String)
  /-- A dictionary of values. -/
  | dict (entry : Schema)
  /-- An object with the given fields, of which some must be there. -/
  | record (required : List String) (fields : List (String × Schema))
  /-- The same values, with a word on what they are; the outermost one counts. -/
  | described (schema : Schema) (text : String)
  /-- The same values, under a title. -/
  | titled (schema : Schema) (title : String)
  /-- The same values and null. -/
  | nullable (schema : Schema)
  /-- The same values, with the one that stands in when there is none. -/
  | orElse (schema : Schema) (value : Value)

mutual

/-- The members of a schema's JSON form; of a name given twice the later counts. -/
def Schema.members : Schema → List (String × Value)
  | .text => [("type", .string "string")]
  | .flag => [("type", .string "boolean")]
  | .choice texts => [("type", .string "string"), ("enum", .array (texts.map .string))]
  | .dict entry =>
    [("type", .string "object"), ("additionalProperties", .ofMembers entry.members)]
  | .record required fields =>
    [("type", .string "object"), ("properties", .ofMembers (fieldMembers fields))] ++
      (if required.isEmpty then [] else [("required", .array (required.map .string))])
  | .described schema text => schema.members ++ [("description", .string text)]
  | .titled schema title => schema.members ++ [("title", .string title)]
  | .nullable schema => schema.members ++ [("nullable", .bool true)]
  | .orElse schema value => schema.members ++ [("default", value)]

/-- The JSON forms of fields, by name. -/
def fieldMembers : List (String × Schema) → List (String × Value)
  | [] => []
  | (name, schema) :: rest => (name, .ofMembers schema.members) :: fieldMembers rest

end

/-- The JSON form of a schema. -/
def Schema.encode (s : Schema) : Value := .ofMembers s.members

end Fleet.Resource

import Fleet.Instant
import Fleet.Json.Printer
import Fleet.Json.Reader

/-! # Decoding

A `Decoder` takes a value of some type out of a document.  What it accepts hardly depends on where
the document comes from (its `Origin`), but how it refuses does, in two places: a choice that is
no text, and a list that is longer than the record it stands for.

The errors are causes; `DecodeError.message` is their wording. -/

namespace Fleet.Json

/-- Where the document being decoded comes from. -/
inductive Origin where
  /-- Straight from a text. -/
  | text
  /-- From a value read before. -/
  | value
  /-- From the members of an object that were set aside for the records inside it. -/
  | aside
  deriving DecidableEq, Repr

/-- What a document holds, as far as a message shows it. -/
inductive Found where
  | null
  | bool (value : Bool)
  | number (value : Number)
  | string (value : String)
  | array
  | object
  deriving DecidableEq

/-- The wording of what was found. -/
def Found.text : Found → String
  | .null => "null"
  | .bool b => "boolean `" ++ (if b then "true" else "false") ++ "`"
  | .number (.integer i h) =>
    "integer `" ++ String.ofList (Number.integer i h).print ++ "`"
  | .number (.double d) => "floating point `" ++ String.ofList (Number.double d).print ++ "`"
  | .string s => "string " ++ Text.quoted s
  | .array => "sequence"
  | .object => "map"

/-- What a decoder asks for. -/
inductive Expected where
  | string
  | boolean
  | integer (name : String)
  | map
  | list
  | unit
  | instant
  | choice
  | singleMember
  | record (name : String)
  /-- A record that is named without saying so. -/
  | plain (name : String)
  deriving DecidableEq

/-- The wording of what was asked for. -/
def Expected.text : Expected → String
  | .string => "a string"
  | .boolean => "a boolean"
  | .integer name => name
  | .map => "a map"
  | .list => "a sequence"
  | .unit => "unit"
  | .instant => "an RFC 3339 formatted date and time string"
  | .choice => "string or map"
  | .singleMember => "map with a single key"
  | .record name => "struct " ++ name
  | .plain name => name

/-- Why a list is not the fields of a record. -/
inductive LengthError where
  /-- It ends before the field at this place, which has no default. -/
  | missing (place : Nat) (record : String) (fields : Nat)
  /-- It has more items than fields; it was a value of its own. -/
  | surplus (length : Nat)
  /-- It has more items than fields; it was set aside. -/
  | surplusAside (length fields : Nat)
  deriving DecidableEq

/-- A count with a noun that takes an `s` for more than one. -/
def counted (n : Nat) (noun : String) : String :=
  toString n ++ " " ++ noun ++ (if n = 1 then "" else "s")

/-- The wording of a length error. -/
def LengthError.message : LengthError → String
  | .missing place record fields =>
    "invalid length " ++ toString place ++ ", expected struct " ++ record ++ " with " ++
      counted fields "element"
  | .surplus length =>
    "invalid length " ++ toString length ++ ", expected fewer elements in array"
  | .surplusAside length fields =>
    "invalid length " ++ toString length ++ ", expected " ++ counted fields "element" ++
      " in sequence"

/-- Why a document is no value of the type asked for. -/
inductive DecodeError where
  | malformed (error : SyntaxError)
  | invalidType (found : Found) (expected : Expected)
  | invalidValue (found : Found) (expected : Expected)
  | invalidLength (error : LengthError)
  | missingField (name : String)
  | duplicateField (name : String)
  | unknownVariant (name : String) (known : List String)
  | invalidInstant (error : Instant.ParseError)
  | unexpectedText (found expected : String)
  | invalidBase64 (error : String)
  deriving DecidableEq

/-- Names in backquotes: two with "or" between them, of more a list. -/
def oneOf (names : List String) : String :=
  let quoted := names.map (fun n => "`" ++ n ++ "`")
  match quoted with
  | [a] => a
  | [a, b] => a ++ " or " ++ b
  | l => "one of " ++ ", ".intercalate l

/-- The wording of a decoding error. -/
def DecodeError.message : DecodeError → String
  | .malformed e => e.message
  | .invalidType f e => "invalid type: " ++ f.text ++ ", expected " ++ e.text
  | .invalidValue f e => "invalid value: " ++ f.text ++ ", expected " ++ e.text
  | .invalidLength e => e.message
  | .missingField name => "missing field `" ++ name ++ "`"
  | .duplicateField name => "duplicate field `" ++ name ++ "`"
  | .unknownVariant name known =>
    "unknown variant `" ++ name ++ "`, expected " ++ oneOf known
  | .invalidInstant e => e.message
  | .unexpectedText f e => "invalid value: string " ++ Text.quoted f ++ ", expected " ++ e
  | .invalidBase64 e => e

/-- Takes a value out of a document. -/
abbrev Decoder (α : Type) := Origin → Document → Except DecodeError α

/-- A syntax error as the reason of a refusal. -/
def malformed {α : Type} : Except SyntaxError α → Except DecodeError α :=
  Except.mapError .malformed

/-- What a document holds; a fault in a number or a text shows first. -/
def Document.found : Document → Except DecodeError Found
  | .null => .ok .null
  | .bool b => .ok (.bool b)
  | .number n => malformed (n.map .number)
  | .string s => malformed (s.map .string)
  | .array _ _ _ => .ok .array
  | .object _ _ _ => .ok .object
  | .broken _ f => .error (.malformed f.reading)

/-- Refuses a document for not being what was asked for. -/
def mismatch {α : Type} (expected : Expected) (d : Document) : Except DecodeError α := do
  throw (.invalidType (← d.found) expected)

/-- Any value. -/
def anyValue : Decoder Value := fun _ d => malformed d.toValue

/-- A text. -/
def text : Decoder String
  | _, .string s => malformed s
  | _, d => mismatch .string d

/-- A truth value. -/
def boolean : Decoder Bool
  | _, .bool b => .ok b
  | _, d => mismatch .boolean d

/-- An instant, written as a text. -/
def instant : Decoder Instant
  | _, .string s => do
    let s ← malformed s
    Except.mapError .invalidInstant (Instant.parse s)
  | _, d => mismatch .instant d

/-- Nothing, written as null; among members set aside also as an empty object. -/
def unit : Decoder Unit
  | _, .null => .ok ()
  | .aside, .object _ [] none => .ok ()
  | _, d => mismatch .unit d

/-- A value that may be absent, then written as null; what starts like null must be null. -/
def optional {α : Type} (decode : Decoder α) : Decoder (Option α)
  | _, .null => .ok none
  | _, .broken .null f => .error (.malformed f.reading)
  | origin, d => (decode origin d).map some

/-- The items of a list. -/
def listItems {α : Type} (decode : Document → Except DecodeError α) :
    List Document → Except DecodeError (List α)
  | [] => .ok []
  | d :: rest => do
    let a ← decode d
    let as ← listItems decode rest
    return a :: as

/-- What stands behind the last item. -/
def ended (ending : Option Fault) : Except DecodeError Unit :=
  malformed (Document.close ending Fault.reading)

/-- A list. -/
def list {α : Type} (decode : Decoder α) : Decoder (List α)
  | _, .array true _ _ => .error (.malformed .tooDeep)
  | origin, .array false items ending => do
    let as ← listItems (decode origin) items
    ended ending
    return as
  | _, d => mismatch .list d

/-- The entries of a map. -/
def mapEntries {α : Type} (decode : Document → Except DecodeError α) :
    List (Except SyntaxError String × Document) → Except DecodeError (List (String × α))
  | [] => .ok []
  | (key, d) :: rest => do
    let k ← malformed key
    let a ← decode d
    let as ← mapEntries decode rest
    return (k, a) :: as

/-- A map from names; of a name given twice the last value stays. -/
def map {α : Type} (decode : Decoder α) : Decoder (Dict α)
  | _, .object true _ _ => .error (.malformed .tooDeep)
  | origin, .object false members ending => do
    let entries ← mapEntries (decode origin) members
    ended ending
    return .ofList entries
  | _, d => mismatch .map d

/-! ### Choices -/

/-- The alternative that a name stands for. -/
def variant {α : Type} (known : List (String × α)) (name : String) : Except DecodeError α :=
  match known.find? (fun k => k.1 == name) with
  | some (_, a) => .ok a
  | none => .error (.unknownVariant name (known.map Prod.fst))

/-- The first member of an object that names a choice, straight from a text. -/
def choiceMember {α : Type} (known : List (String × α))
    (members : List (Except SyntaxError String × Document)) (ending : Option Fault) :
    Except DecodeError α :=
  match members with
  | [] => .error (.malformed ((ending.map Fault.reading).getD .expectedValue))
  | (key, d) :: rest => do
    let a ← variant known (← malformed key)
    unit .text d
    if !rest.isEmpty then throw (.malformed .expectedValue)
    match ending with
    | none => return a
    | some f =>
      throw (.malformed (if f.reading = .endOfObject then .endOfObject else .expectedValue))

/-- One of some named alternatives: a text with its name, or an object with its name as the only
member and null as the value. -/
def choice {α : Type} (known : List (String × α)) : Decoder α
  | _, .string s => do variant known (← malformed s)
  | .text, .object true _ _ => .error (.malformed .tooDeep)
  | .text, .object false members ending => choiceMember known members ending
  | .text, .broken .nothing f | .text, .broken .quote f => .error (.malformed f.reading)
  | .text, _ => .error (.malformed .expectedValue)
  | origin, .object _ [(key, d)] _ => do
    let a ← variant known (← malformed key)
    unit origin d
    return a
  | _, .object _ _ _ => .error (.invalidValue .object .singleMember)
  | _, d => mismatch .choice d

end Fleet.Json

import Fleet.Json.Decoder

/-! # Records as objects

A `Layout` says how a record is written as a JSON object: its fields under their keys, which of
them may be left out, and which of them belong to a part.  A part is a record inside the record
whose fields stand among its own; they are set aside when the object is read, and decoded, part by
part, after it.  A record may also keep the members that are no fields.

A record without parts may also be written as the list of its fields.

`Layout.decode` and `Layout.encode` are the two directions; `Layout.strict` is the layout that
keeps unknown members, so that a reader can refuse them. -/

namespace Fleet.Json

/-- The two directions of a type: out of a document, and as a value. -/
structure Codec (α : Type) where
  /-- Takes a value out of a document. -/
  decode : Decoder α
  /-- Writes a value. -/
  encode : α → Value

/-- Texts. -/
def Codec.text : Codec String := ⟨Json.text, .string⟩

/-- Truth values. -/
def Codec.bool : Codec Bool := ⟨Json.boolean, .bool⟩

/-- Any value. -/
def Codec.any : Codec Value := ⟨Json.anyValue, id⟩

/-- Instants. -/
def Codec.instant : Codec Instant := ⟨Json.instant, fun t => .string t.print⟩

/-- Lists. -/
def Codec.list {α : Type} (c : Codec α) : Codec (List α) :=
  ⟨Json.list c.decode, fun as => .array (as.map c.encode)⟩

/-- Maps from names. -/
def Codec.dict {α : Type} (c : Codec α) : Codec (Dict α) :=
  ⟨Json.map c.decode, fun d => .ofDict (d.map c.encode)⟩

/-- Named alternatives. -/
def Codec.choice {α : Type} (known : List (String × α)) (name : α → String) : Codec α :=
  ⟨Json.choice known, fun a => .string (name a)⟩

/-- What the absence of a field means. -/
inductive Presence where
  /-- It is an error. -/
  | required
  /-- The field keeps its default. -/
  | defaulted
  /-- The field keeps its default in an object; a list must have it. -/
  | defaultedInObject
  deriving DecidableEq

/-- A field of a record type. -/
structure Field (ρ : Type) where
  /-- The type of its values. -/
  {α : Type}
  /-- The name of the member that writes it. -/
  key : String
  /-- What its absence means. -/
  presence : Presence
  /-- Its value in a record. -/
  get : ρ → α
  /-- Sets its value in a record. -/
  set : α → ρ → ρ
  /-- Takes its value out of a document. -/
  decode : Decoder α
  /-- Writes its value, unless it is left out. -/
  encode : α → Option Value

namespace Field

variable {ρ σ α : Type}

/-- A field that must be there. -/
def required (key : String) (c : Codec α) (get : ρ → α) (set : α → ρ → ρ) : Field ρ :=
  ⟨key, .required, get, set, c.decode, fun a => some (c.encode a)⟩

/-- A field that has a default when it is left out, and is always written. -/
def defaulted (key : String) (c : Codec α) (get : ρ → α) (set : α → ρ → ρ) : Field ρ :=
  ⟨key, .defaulted, get, set, c.decode, fun a => some (c.encode a)⟩

/-- A field that is written unless it has its default. -/
def omitted (key : String) (c : Codec α) (isDefault : α → Bool) (get : ρ → α)
    (set : α → ρ → ρ) : Field ρ :=
  ⟨key, .defaulted, get, set, c.decode, fun a => if isDefault a then none else some (c.encode a)⟩

/-- A text that is left out when empty. -/
def textOrEmpty (key : String) (get : ρ → String) (set : String → ρ → ρ) : Field ρ :=
  omitted key .text String.isEmpty get set

/-- A map that is left out when empty. -/
def dictOrEmpty (key : String) (c : Codec α) (get : ρ → Dict α) (set : Dict α → ρ → ρ) :
    Field ρ :=
  omitted key (.dict c) Dict.isEmpty get set

/-- A field that may have no value; null stands for none. -/
def optional (key : String) (c : Codec α) (get : ρ → Option α) (set : Option α → ρ → ρ) :
    Field ρ :=
  ⟨key, .defaulted, get, set, Json.optional c.decode, fun a => a.map c.encode⟩

/-- A field that has its default when it is left out or null. -/
def nullable (key : String) (c : Codec α) (default : α) (isDefault : α → Bool) (get : ρ → α)
    (set : α → ρ → ρ) : Field ρ :=
  ⟨key, .defaulted, get, set,
    fun origin d => (Json.optional c.decode origin d).map (·.getD default),
    fun a => if isDefault a then none else some (c.encode a)⟩

/-- The field of a record inside another one. -/
def within (f : Field σ) (get : ρ → σ) (set : σ → ρ → ρ) : Field ρ :=
  { α := f.α, key := f.key, presence := f.presence
    get := fun r => f.get (get r)
    set := fun a r => set (f.set a (get r)) r
    decode := f.decode
    encode := f.encode }

end Field

/-- Where a record keeps the members that are no fields. -/
structure Remainder (ρ : Type) where
  /-- The members. -/
  get : ρ → Dict Value
  /-- Sets the members. -/
  set : Dict Value → ρ → ρ

/-- How a record is written as an object. -/
structure Layout (ρ : Type) where
  /-- The name of the record type in messages. -/
  name : String
  /-- The record with all defaults. -/
  blank : ρ
  /-- The fields of its own. -/
  fields : List (Field ρ)
  /-- The fields of its parts. -/
  parts : List (List (Field ρ)) := []
  /-- Where it keeps other members. -/
  remainder : Option (Remainder ρ) := none
  /-- Whether a field may be repeated, the last one counting; such a record has no list form. -/
  loose : Bool := false

namespace Layout

variable {ρ : Type}

/-- Whether all members are decoded where they stand. -/
def isPlain (l : Layout ρ) : Bool := l.parts.isEmpty && l.remainder.isNone

/-- What a message calls the record. -/
def expected (l : Layout ρ) : Expected := if l.loose then .plain l.name else .record l.name

/-- A record while its members are decoded. -/
structure Progress (ρ : Type) where
  /-- The record so far. -/
  record : ρ
  /-- The keys decoded. -/
  seen : List String

/-- Decodes the member `key` as field `f`. -/
def readField (loose : Bool) (f : Field ρ) (origin : Origin) (d : Document) (p : Progress ρ) :
    Except DecodeError (Progress ρ) := do
  if !loose && p.seen.contains f.key then throw (.duplicateField f.key)
  let a ← f.decode origin d
  return ⟨f.set a p.record, f.key :: p.seen⟩

/-- The field with a key. -/
def field? (fields : List (Field ρ)) (key : String) : Option (Field ρ) :=
  fields.find? (fun f => f.key == key)

/-- Decodes the members that are fields where they stand.  Others are passed over if there is no
use for them, else checked and set aside. -/
def readMembers (l : Layout ρ) (origin : Origin) (p : Progress ρ) :
    List (Except SyntaxError String × Document) →
    Except DecodeError (Progress ρ × List (String × Document))
  | [] => .ok (p, [])
  | (key, d) :: rest => do
    let k ← malformed key
    match field? l.fields k with
    | some f =>
      let p ← readField l.loose f origin d p
      l.readMembers origin p rest
    | none =>
      if l.isPlain then
        malformed d.skip
        l.readMembers origin p rest
      else
        let _ ← malformed d.toValue
        let (p, aside) ← l.readMembers origin p rest
        return (p, (k, d) :: aside)

/-- A required field that was not there is an error. -/
def demand (fields : List (Field ρ)) (seen : List String) : Except DecodeError Unit :=
  match fields.find? (fun f => decide (f.presence = .required) && !seen.contains f.key) with
  | some f => .error (.missingField f.key)
  | none => .ok ()

/-- Decodes the members set aside that are fields of a part. -/
def readAside (fields : List (Field ρ)) (p : Progress ρ) :
    List (String × Document) → Except DecodeError (Progress ρ)
  | [] => .ok p
  | (key, d) :: rest => do
    match field? fields key with
    | some f =>
      let p ← readField false f .aside d p
      readAside fields p rest
    | none => readAside fields p rest

/-- Decodes the parts one after the other. -/
def readParts (record : ρ) (aside : List (String × Document)) :
    List (List (Field ρ)) → Except DecodeError ρ
  | [] => .ok record
  | fields :: rest => do
    let p ← readAside fields ⟨record, []⟩ aside
    demand fields p.seen
    readParts p.record aside rest

/-- The members set aside that belong to no part. -/
def others (l : Layout ρ) (aside : List (String × Document)) : List (String × Document) :=
  aside.filter (fun m => l.parts.all (fun fields => (field? fields m.1).isNone))

/-- Keeps the members that belong to no part, if the record has a place for them. -/
def readOthers (l : Layout ρ) (aside : List (String × Document)) (record : ρ) :
    Except DecodeError ρ :=
  match l.remainder with
  | none => .ok record
  | some r => do
    let entries ← malformed (Document.toMembers ((l.others aside).map (fun m => (.ok m.1, m.2))))
    return r.set (.ofList entries) record

/-- Decodes the members of an object. -/
def readObject (l : Layout ρ) (origin : Origin)
    (members : List (Except SyntaxError String × Document)) (ending : Option Fault) :
    Except DecodeError ρ := do
  let (p, aside) ← l.readMembers origin ⟨l.blank, []⟩ members
  ended ending
  demand l.fields p.seen
  let record ← readParts p.record aside l.parts
  l.readOthers aside record

/-- Decodes the items of a list as the fields of a record, `place` of them already decoded; the
items left over stay. -/
def readPlaces (l : Layout ρ) (origin : Origin) (ending : Option Fault) (record : ρ) (place : Nat) :
    List (Field ρ) → List Document → Except DecodeError (ρ × List Document)
  | [], items => .ok (record, items)
  | f :: fields, [] => do
    ended ending
    if f.presence ≠ .defaulted then
      throw (.invalidLength (.missing place l.name l.fields.length))
    l.readPlaces origin ending record (place + 1) fields []
  | f :: fields, d :: items => do
    let a ← f.decode origin d
    l.readPlaces origin ending (f.set a record) (place + 1) fields items

/-- A list must end with the last field of the record. -/
def endPlaces (l : Layout ρ) (origin : Origin) (length : Nat) (left : List Document)
    (ending : Option Fault) : Except DecodeError Unit :=
  match origin with
  | .text =>
    if !left.isEmpty then .error (.malformed .trailingCharacters)
    else
      match ending with
      | none => .ok ()
      | some f =>
        .error (.malformed (if f.reading = .trailingComma ∨ f.reading = .endOfArray then f.reading
          else .trailingCharacters))
  | .value => if left.isEmpty then .ok () else .error (.invalidLength (.surplus length))
  | .aside =>
    if left.isEmpty then .ok () else .error (.invalidLength (.surplusAside length l.fields.length))

/-- Takes a record out of a document. -/
def decode (l : Layout ρ) : Decoder ρ
  | origin, .object false members ending => l.readObject origin members ending
  | _, .object true _ _ => .error (.malformed .tooDeep)
  | origin, .array tooDeep items ending =>
    if !l.isPlain || l.loose then mismatch l.expected (.array tooDeep items ending)
    else if tooDeep then .error (.malformed .tooDeep)
    else do
      let (record, left) ← l.readPlaces origin ending l.blank 0 l.fields items
      l.endPlaces origin items.length left ending
      return record
  | _, d => mismatch l.expected d

/-- The members that write the fields of a record. -/
def members (fields : List (Field ρ)) (record : ρ) : List (String × Value) :=
  fields.filterMap (fun f => (f.encode (f.get record)).map (fun v => (f.key, v)))

/-- Writes a record. -/
def encode (l : Layout ρ) (record : ρ) : Value :=
  .ofMembers
    (members l.fields record ++ l.parts.flatMap (fun fields => members fields record) ++
      (match l.remainder with
      | none => []
      | some r => (r.get record).entries))

/-- The two directions of a record type. -/
def codec (l : Layout ρ) : Codec ρ := ⟨l.decode, l.encode⟩

/-- The layout that keeps the members unknown to `l`, all of which it sets aside first. -/
def strict (l : Layout ρ) : Layout (ρ × Dict Value) where
  name := "Strict"
  blank := (l.blank, .empty)
  fields := []
  parts := [l.fields.map (fun f => f.within Prod.fst (fun r s => (r, s.2)))]
  remainder := some ⟨Prod.snd, fun d s => (s.1, d)⟩

end Layout

/-- Decodes a whole text. -/
def decodeText {α : Type} (decode : Decoder α) (s : Source) : Except DecodeError α := do
  let t := readText s
  let a ← decode .text t.document
  if t.more then throw (.malformed .trailingCharacters)
  return a

/-- Decodes a value. -/
def decodeValue {α : Type} (decode : Decoder α) (v : Value) : Except DecodeError α :=
  decode .value (.ofValue v)

end Fleet.Json

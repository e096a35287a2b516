import Fleet.Json.Value

/-! # Documents

What a JSON text says before anyone asks for it: a tree that keeps the members of objects as they
stand, and, where the text breaks off, says why.  A document is taken in one of two ways.  A value
that is wanted is *read*; one that is not is *skipped*, and then only has to have the right shape.
The two notice different faults, so every fault names its error for both.

`Document.toValue` reads a whole document, `Document.skip` skips it, and `Document.ofValue` is the
faultless document of a value. -/

namespace Fleet.Json

/-- Why a text is not JSON. -/
inductive SyntaxError where
  | endOfValue
  | endOfString
  | endOfArray
  | endOfObject
  | expectedValue
  | expectedWord
  | expectedColon
  | expectedCommaOrBracket
  | expectedCommaOrBrace
  | keyNotString
  | trailingComma
  | trailingCharacters
  | invalidNumber
  | numberOutOfRange
  | invalidEscape
  | loneSurrogate
  | endOfEscape
  | controlCharacter
  | invalidCodePoint
  | tooDeep
  deriving DecidableEq, Repr

/-- The wording of a syntax error. -/
def SyntaxError.message : SyntaxError → String
  | .endOfValue => "EOF while parsing a value"
  | .endOfString => "EOF while parsing a string"
  | .endOfArray => "EOF while parsing a list"
  | .endOfObject => "EOF while parsing an object"
  | .expectedValue => "expected value"
  | .expectedWord => "expected ident"
  | .expectedColon => "expected `:`"
  | .expectedCommaOrBracket => "expected `,` or `]`"
  | .expectedCommaOrBrace => "expected `,` or `\x7d`"
  | .keyNotString => "key must be a string"
  | .trailingComma => "trailing comma"
  | .trailingCharacters => "trailing characters"
  | .invalidNumber => "invalid number"
  | .numberOutOfRange => "number out of range"
  | .invalidEscape => "invalid escape"
  | .loneSurrogate => "lone leading surrogate in hex escape"
  | .endOfEscape => "unexpected end of hex escape"
  | .controlCharacter => "control character (\\u0000-\\u001F) found while parsing a string"
  | .invalidCodePoint => "invalid unicode code point"
  | .tooDeep => "recursion limit exceeded"

/-- A place where the text breaks off. -/
structure Fault where
  /-- The error when the value there is read. -/
  reading : SyntaxError
  /-- The error when the value there is skipped. -/
  skipping : SyntaxError
  deriving DecidableEq, Repr

/-- The fault that reading and skipping notice alike. -/
def Fault.both (e : SyntaxError) : Fault := ⟨e, e⟩

/-- What stands where a value breaks off. -/
inductive Start where
  /-- Nothing that a value starts with. -/
  | nothing
  /-- The first letter of null. -/
  | null
  /-- The start of another word, or of a number. -/
  | scalar
  /-- A quote. -/
  | quote
  deriving DecidableEq, Repr

/-- A JSON document.  Numbers and texts may hold an error that only reading notices.  A container
nested too deep cannot be entered, and after the last item of a container the text may break off. -/
inductive Document where
  | null
  | bool (value : Bool)
  | number (value : Except SyntaxError Number)
  | string (value : Except SyntaxError String)
  | array (tooDeep : Bool) (items : List Document) (ending : Option Fault)
  | object (tooDeep : Bool) (members : List (Except SyntaxError String × Document))
      (ending : Option Fault)
  | broken (start : Start) (fault : Fault)

instance : Inhabited Document := ⟨.null⟩

namespace Document

mutual
/-- The document that writes a value. -/
def ofValue : Value → Document
  | .null => .null
  | .bool b => .bool b
  | .number n => .number (.ok n)
  | .string s => .string (.ok s)
  | .array items => .array false (ofItems items) none
  | .object members => .object false (ofMembers members) none

/-- The documents of the items of an array. -/
def ofItems : List Value → List Document
  | [] => []
  | v :: rest => ofValue v :: ofItems rest

/-- The documents of the members of an object. -/
def ofMembers : List (String × Value) → List (Except SyntaxError String × Document)
  | [] => []
  | (k, v) :: rest => (.ok k, ofValue v) :: ofMembers rest
end

/-- What follows the last item: nothing, or an error. -/
def close (ending : Option Fault) (error : Fault → SyntaxError) : Except SyntaxError Unit :=
  match ending with
  | none => .ok ()
  | some f => .error (error f)

mutual
/-- Reads a whole document; of a member given twice the last value stays. -/
def toValue : Document → Except SyntaxError Value
  | .null => .ok .null
  | .bool b => .ok (.bool b)
  | .number n => n.map .number
  | .string s => s.map .string
  | .array true _ _ => .error .tooDeep
  | .array false items ending => do
    let values ← toItems items
    close ending Fault.reading
    return .array values
  | .object true _ _ => .error .tooDeep
  | .object false members ending => do
    let values ← toMembers members
    close ending Fault.reading
    return .ofMembers values
  | .broken _ f => .error f.reading

/-- Reads the items of an array. -/
def toItems : List Document → Except SyntaxError (List Value)
  | [] => .ok []
  | d :: rest => do
    let v ← toValue d
    let values ← toItems rest
    return v :: values

/-- Reads the members of an object. -/
def toMembers : List (Except SyntaxError String × Document) →
    Except SyntaxError (List (String × Value))
  | [] => .ok []
  | (key, d) :: rest => do
    let k ← key
    let v ← toValue d
    let values ← toMembers rest
    return (k, v) :: values
end

mutual
/-- Passes over a document of which nothing is wanted. -/
def skip : Document → Except SyntaxError Unit
  | .array _ items ending => do
    skipItems items
    close ending Fault.skipping
  | .object _ members ending => do
    skipMembers members
    close ending Fault.skipping
  | .broken _ f => .error f.skipping
  | _ => .ok ()

/-- Passes over the items of an array. -/
def skipItems : List Document → Except SyntaxError Unit
  | [] => .ok ()
  | d :: rest => do
    skip d
    skipItems rest

/-- Passes over the members of an object. -/
def skipMembers : List (Except SyntaxError String × Document) → Except SyntaxError Unit
  | [] => .ok ()
  | (_, d) :: rest => do
    skip d
    skipMembers rest
end

end Document
end Fleet.Json

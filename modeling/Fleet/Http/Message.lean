import Fleet.Json.Printer

/-! # Requests and responses

HTTP messages as far as the service looks at them. -/

namespace Fleet.Http

/-- A request. -/
structure Request where
  method : String
  path : String
  query : Option String := none
  /-- Names and values, in their order. -/
  headers : List (String × String) := []
  body : List UInt8 := []
  deriving DecidableEq, Repr

/-- Whether a character may stand in a scheme. -/
def isSchemeChar (c : Char) : Bool := c.isAlphanum || ['+', '-', '.'].contains c

/-- A target from its path on.  Scheme and authority may stand before the path, which is then the
root if it is missing; an authority alone has none. -/
def fromPath (target : List Char) : List Char :=
  match target with
  | '/' :: _ | ['*'] => target
  | _ =>
    match target.dropWhile isSchemeChar with
    | ':' :: '/' :: '/' :: rest =>
      match rest.dropWhile (fun c => c ≠ '/' && c ≠ '?') with
      | '/' :: path => '/' :: path
      | query => '/' :: query
    | _ => []

/-- Path and query of a target; a fragment is cut off. -/
def splitTarget (target : String) : String × Option String :=
  let cs := fromPath (target.toList.takeWhile (· ≠ '#'))
  let path := cs.takeWhile (· ≠ '?')
  (String.ofList path,
    if path.length < cs.length then some (String.ofList (cs.drop (path.length + 1))) else none)

/-- Whether a character may stand in the text of a header. -/
def isHeaderChar (c : Char) : Bool := c == '\t' || (0x20 ≤ c.toNat && c.toNat < 0x7F)

/-- The first value of a header, named in lower case, if it is a text. -/
def Request.header? (r : Request) (name : String) : Option String := do
  let (_, value) ← r.headers.find? (fun h => h.1.map Char.toLower == name)
  if value.toList.all isHeaderChar then return value else failure

/-- What a response carries. -/
inductive Body where
  | empty
  | text (text : String)
  | json (value : Json.Value)
  deriving DecidableEq

/-- The text of a body. -/
def Body.render : Body → String
  | empty => ""
  | text s => s
  | json v => v.render

/-- A response. -/
structure Response where
  status : Nat
  contentType : Option String := none
  /-- The methods that would be allowed. -/
  allow : Option String := none
  body : Body := .empty
  deriving DecidableEq

namespace Response

/-- A response without a body. -/
def bare (status : Nat) : Response := { status }

/-- A response with a JSON value. -/
def json (status : Nat) (v : Json.Value) : Response :=
  { status, contentType := some "application/json", body := .json v }

/-- A response with a text. -/
def text (status : Nat) (s : String) : Response :=
  { status, contentType := some "text/plain; charset=utf-8", body := .text s }

end Response
end Fleet.Http

import Fleet.Text.Blank
import Fleet.Url.Domain

/-! # URLs

`Location.parse` reads an absolute URL as browsers do and keeps its scheme and the segments of its
path.  What stands between them, user, host and port, is checked and not kept.

Schemes are of three kinds.  A special one takes any number of slashes, of either kind, before its
host, which must be a domain name or an address.  A file may have a host.  Any other scheme has a
host after two slashes, else a path after one, else no path that could have segments. -/

namespace Fleet.Url

/-- The kinds of scheme. -/
inductive SchemeKind where
  | special
  | file
  | other
  deriving DecidableEq, Repr

/-- The kind of a scheme. -/
def SchemeKind.of (scheme : String) : SchemeKind :=
  if ["http", "https", "ws", "wss", "ftp"].contains scheme then .special
  else if scheme = "file" then .file
  else .other

/-- Why a text is no URL. -/
inductive ParseError where
  | noScheme
  | emptyHost
  | invalidPort
  | invalidAddress4
  | invalidAddress6
  | forbiddenHostCharacter
  | invalidDomain
  deriving DecidableEq, Repr

/-- The wording of an error. -/
def ParseError.message : ParseError → String
  | .noScheme => "relative URL without a base"
  | .emptyHost => "empty host"
  | .invalidPort => "invalid port number"
  | .invalidAddress4 => "invalid IPv4 address"
  | .invalidAddress6 => "invalid IPv6 address"
  | .forbiddenHostCharacter => "invalid domain character"
  | .invalidDomain => "invalid international domain name"

/-- A URL, as far as it says where something lies within its host. -/
structure Location where
  scheme : String
  /-- The segments of the path; `none` if it is no path with segments. -/
  segments : Option (List String)
  deriving DecidableEq, Repr

/-! ### The host -/

/-- Whether `c` separates segments. -/
def isSlash (kind : SchemeKind) (c : Char) : Bool := c == '/' || (c == '\\' && kind != .other)

/-- Whether `c` ends the host and the path begins. -/
def endsAuthority (kind : SchemeKind) (c : Char) : Bool :=
  isSlash kind c || c == '?' || c == '#'

/-- Checks the host between brackets or by the rules of its scheme. -/
def checkHost (kind : SchemeKind) (host : List Char) : Except ParseError Unit :=
  match host with
  | '[' :: rest =>
    if rest.getLast? = some ']' ∧ isAddress6 rest.dropLast then .ok () else .error .invalidAddress6
  | _ =>
    if kind = .other then
      if host.any (fun c => ['\u0000', '\t', '\n', '\r', ' ', '#', '/', ':', '<', '>', '?', '@',
          '[', '\\', ']', '^', '|'].contains c) then .error .forbiddenHostCharacter
      else .ok ()
    else
      match domain? host with
      | none => .error .invalidDomain
      | some name =>
        if name.isEmpty then .error .emptyHost
        else if endsInNumber name && !isAddress4 name then .error .invalidAddress4
        else .ok ()

/-- The length of the host at the start of `cs`, which a colon ends outside of brackets. -/
def hostLength (kind : SchemeKind) (bracketed : Bool) : List Char → Nat
  | [] => 0
  | c :: rest =>
    if endsAuthority kind c || (c == ':' && !bracketed) then 0
    else 1 + hostLength kind (if c == '[' then true else if c == ']' then false else bracketed) rest

/-- Checks the port that digits write, up to the path, and leaves the rest. -/
def readPort (port : Nat) : List Char → Except ParseError (List Char)
  | [] => .ok []
  | c :: rest =>
    if c.isDigit then
      let port := port * 10 + (c.toNat - '0'.toNat)
      if 65535 < port then .error .invalidPort else readPort port rest
    else if endsAuthority .special c then .ok (c :: rest)
    else .error .invalidPort

/-- Checks host and port and leaves the rest. -/
def readHost (kind : SchemeKind) (withUser : Bool) (cs : List Char) :
    Except ParseError (List Char) := do
  let n := hostLength kind false cs
  let host := cs.take n
  let rest := cs.drop n
  if host.isEmpty && (kind = .special || rest.head? = some ':') then throw .emptyHost
  checkHost kind host
  let rest ←
    match rest with
    | ':' :: after => readPort 0 after
    | _ => .ok rest
  if host.isEmpty && withUser then throw .emptyHost
  return rest

/-- Checks user, host and port behind the slashes and leaves the rest.  The user ends at the last
`@`. -/
def readAuthority (kind : SchemeKind) (cs : List Char) : Except ParseError (List Char) :=
  let authority := cs.takeWhile (fun c => !endsAuthority kind c)
  if authority.contains '@' then
    let user := ((authority.reverse.dropWhile (· ≠ '@')).drop 1).reverse
    let rest := cs.drop (user.length + 1)
    if user.isEmpty && rest.head?.any (endsAuthority kind) then .error .emptyHost
    else readHost kind (user ≠ [] ∧ user ≠ [':']) rest
  else readHost kind false cs

/-! ### The path -/

/-- Whether a segment stands for where it is. -/
def isDot (segment : List Char) : Bool :=
  [".", "%2e"].contains (String.ofList (segment.map Char.toLower))

/-- Whether a segment stands for the one above. -/
def isDoubleDot (segment : List Char) : Bool :=
  ["..", ".%2e", "%2e.", "%2e%2e"].contains (String.ofList (segment.map Char.toLower))

/-- The letter of a segment that names a drive. -/
def drive? : List Char → Option Char
  | [letter, ':'] | [letter, '|'] => if letter.isAlpha then some letter else none
  | _ => none

/-- The path without its last segment, which stays if it names a drive.  The path is given last
segment first. -/
def shorten : List (List Char) → List (List Char)
  | [] => []
  | last :: rest => if (drive? last).isSome then last :: rest else rest

/-- Adds segments to a path, which is given last segment first. -/
def addSegments (kind : SchemeKind) (path : List (List Char)) :
    List (List Char) → List (List Char)
  | [] => path
  | piece :: pieces =>
    let segment := percentEncode escapedInPath piece
    let ending := if pieces.isEmpty then [[]] else []
    let path :=
      if isDoubleDot segment then ending ++ shorten path
      else if isDot segment then ending ++ path
      else
        match drive? segment with
        | some letter =>
          (if kind = .file ∧ path.isEmpty then [letter, ':'] else segment) :: path
        | none => segment :: path
    addSegments kind path pieces

/-- The segments of a path. -/
def readSegments (kind : SchemeKind) (cs : List Char) : List String :=
  let path := cs.takeWhile (fun c => c != '?' && c != '#')
  ((addSegments kind [] (Text.splitOn (isSlash kind) path)).reverse).map String.ofList

/-- The segments of what follows the host. -/
def readPath (kind : SchemeKind) : List Char → Option (List String)
  | [] => if kind = .other then none else some [""]
  | c :: rest =>
    if isSlash kind c then some (readSegments kind rest)
    else if kind = .other && (c == '?' || c == '#') then none
    else some (readSegments kind (c :: rest))

/-! ### The whole URL -/

/-- The scheme, in lower case, and what follows its colon. -/
def readScheme : List Char → Option (String × List Char)
  | [] => none
  | c :: rest =>
    let name := (c :: rest).takeWhile (fun c => c.isAlphanum || ['+', '-', '.'].contains c)
    match (c :: rest).drop name.length with
    | ':' :: after =>
      if c.isAlpha then some (String.ofList (name.map Char.toLower), after) else none
    | _ => none

/-- Reads a file's URL behind the scheme.  A drive is no host, and the local host is like none. -/
def readFile (cs : List Char) : Except ParseError (Option (List String)) :=
  match cs with
  | a :: b :: rest =>
    if isSlash .file a && isSlash .file b then
      let host := rest.takeWhile (fun c => !endsAuthority .file c)
      let after := rest.drop host.length
      if host.isEmpty then .ok (some (readSegments .file rest))
      else if (drive? host).isSome then .ok (some (readSegments .file rest))
      else do
        checkHost .file host
        if domain? host = some "localhost".toList then return some (readSegments .file after)
        return readPath .file after
    else .ok (readPath .file cs)
  | _ => .ok (readPath .file cs)

/-- Reads a URL.  Controls and spaces around it are dropped, and tabs and line ends anywhere. -/
def Location.parse (s : String) : Except ParseError Location := do
  let outer (c : Char) := decide (c.toNat ≤ 0x20)
  let trimmed := ((s.toList.dropWhile outer).reverse.dropWhile outer).reverse
  match readScheme (trimmed.filter (fun c => !(['\t', '\n', '\r'].contains c))) with
  | none => throw .noScheme
  | some (scheme, rest) =>
    match SchemeKind.of scheme with
    | .special =>
      let rest ← readAuthority .special (rest.dropWhile (isSlash .special))
      return ⟨scheme, readPath .special rest⟩
    | .file => return ⟨scheme, ← readFile rest⟩
    | .other =>
      match rest with
      | '/' :: '/' :: rest => return ⟨scheme, readPath .other (← readAuthority .other rest)⟩
      | '/' :: rest => return ⟨scheme, some (readSegments .other rest)⟩
      | _ => return ⟨scheme, none⟩

end Fleet.Url

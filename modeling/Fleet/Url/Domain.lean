import Fleet.Text.Composition
import Fleet.Text.Split
import Fleet.Url.Address
import Fleet.Url.DomainTable
import Fleet.Url.Label
import Fleet.Url.Punycode

/-! # Domain names in URLs

A host is read as an international domain name: percent decoded, brought into normal form, and
checked label by label.  `domain?` is the normal form, with labels beyond ASCII left as they
are. -/

namespace Fleet.Url

/-- Whether no domain name has this ASCII character. -/
def forbiddenInDomain (c : Char) : Bool :=
  c.toNat ≤ 0x20 || c.toNat == 0x7F ||
    ['%', '#', '/', ':', '<', '>', '?', '@', '[', '\\', ']', '^', '|'].contains c

/-- What a character of a domain name is replaced by; `none` if it is refused. -/
def mapDomainChar (c : Char) : Option (List Char) :=
  if c.toNat < 0x80 then some [c.toLower]
  else if refusedRanges.has c then none
  else if droppedRanges.has c then some []
  else
    match replacement? c.toNat with
    | some ns => some (ns.map Char.ofNat)
    | none => some [c]

/-- The normal form of a domain name: its characters replaced, and composed with the marks that
follow them.  Only then a forbidden character counts. -/
def normalDomain? (cs : List Char) : Option (List Char) := do
  let name := Text.composed (← cs.mapM mapDomainChar).flatten
  if name.any forbiddenInDomain then failure
  return name

/-- The most characters of an encoded label. -/
def longestEncoded : Nat := 2000

/-- The most characters of a label beyond ASCII. -/
def longestLabel : Nat := 1000

/-- The label that an encoded one stands for: one in normal form that needs the encoding. -/
def decodeLabel? (cs : List Char) : Option (List Char) := do
  let label ← Punycode.decode cs
  if longestEncoded < cs.length ∨ cs.any (0x80 ≤ ·.toNat) ∨ label.all (·.toNat < 0x80) ∨
      normalDomain? label ≠ some label then failure
  return label

/-- A label with its encoding undone. -/
def plainLabel? (cs : List Char) : Option (List Char) :=
  match cs with
  | 'x' :: 'n' :: '-' :: '-' :: rest => decodeLabel? rest
  | _ => if longestLabel < cs.length ∧ cs.any (0x80 ≤ ·.toNat) then none else some cs

/-- The domain name that a host stands for, if it is one. -/
def domain? (host : List Char) : Option (List Char) := do
  let s ← Text.decode? (percentDecode (Text.encode (String.ofList host)))
  let name ← normalDomain? s.toList
  let labels ← (Text.splitOn (· == '.') name).mapM plainLabel?
  if labels.all isWellJoined && directionsAllowed labels then return name else failure

end Fleet.Url

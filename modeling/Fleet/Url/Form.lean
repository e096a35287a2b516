import Fleet.Text.Split
import Fleet.Url.Percent

/-! # Form data

Pairs of texts as the query of a URL writes them: pairs between `&`, the name up to the first `=`,
blanks as `+`, and other characters percent encoded. -/

namespace Fleet.Url

/-- The text that a name or value in form data stands for; broken UTF-8 becomes U+FFFD. -/
def readFormText (cs : List Char) : String :=
  let blanked := cs.map (fun c => if c = '+' then ' ' else c)
  Text.decodeLossy (percentDecode (Text.encode (String.ofList blanked)))

/-- The pair that a part of form data writes. -/
def readFormPair (cs : List Char) : String × String :=
  let name := cs.takeWhile (· ≠ '=')
  (readFormText name, readFormText (cs.drop (name.length + 1)))

/-- The pairs that form data write; empty parts are none. -/
def readForm (s : String) : List (String × String) :=
  ((Text.splitOn (· == '&') s.toList).filter (fun p => !p.isEmpty)).map readFormPair

/-- Whether form data write a byte as it is. -/
def isFormByte (b : UInt8) : Bool :=
  let c := Char.ofNat b.toNat
  c.isAlphanum || ['*', '-', '.', '_'].contains c

/-- A text as a value in form data. -/
def writeFormText (s : String) : String :=
  String.ofList ((Text.encode s).flatMap (fun b =>
    if isFormByte b then [Char.ofNat b.toNat] else if b = 0x20 then ['+'] else percentByte b))

end Fleet.Url

import Fleet.Decimal.Reading
import Fleet.Json.Document
import Fleet.Text.Utf8

/-! # Reading JSON text

`readText` turns a text into a `Document`: every text has one, for where the grammar is left the
document says so.  The text is given as its units, characters and bytes that are none; the
latter are faults only inside a text that is read. -/

namespace Fleet.Json

open Fleet.Decimal

/-- A text as it arrives: characters, and `none` for every byte that is part of none. -/
abbrev Source := List (Option Char)

/-- What follows a complete part of the text, or the fault that ends the text. -/
abbrev Rest := Except Fault Source

/-- The units of a text. -/
def Source.ofString (s : String) : Source := s.toList.map some

/-- The units of a text given by its bytes. -/
def Source.ofBytes (bytes : List UInt8) : Source :=
  (Text.pieces bytes).flatMap (fun
    | .char c => [some c]
    | .broken n => List.replicate n none)

/-- How deep containers may be nested. -/
def depthLimit : Nat := 127

/-- Whether `c` may stand between the tokens. -/
def isSpace (c : Char) : Bool := c = ' ' || c = '\n' || c = '\t' || c = '\r'

/-- The source from its first token on. -/
def skipSpace : Source → Source
  | some c :: rest => if isSpace c then skipSpace rest else some c :: rest
  | s => s

/-! ### Texts -/

/-- The value of a hexadecimal digit. -/
def hexDigit? (u : Option Char) : Option Nat :=
  match u with
  | none => none
  | some c =>
    if '0' ≤ c ∧ c ≤ '9' then some (c.toNat - '0'.toNat)
    else if 'a' ≤ c ∧ c ≤ 'f' then some (c.toNat - 'a'.toNat + 10)
    else if 'A' ≤ c ∧ c ≤ 'F' then some (c.toNat - 'A'.toNat + 10)
    else none

/-- The number that four hexadecimal digits write. -/
def hexFour? (a b c d : Option Char) : Option Nat := do
  return (((← hexDigit? a) * 16 + (← hexDigit? b)) * 16 + (← hexDigit? c)) * 16 + (← hexDigit? d)

/-- The character that a backslash before `c` stands for, if a letter names it. -/
def unescape? (c : Char) : Option Char :=
  match c with
  | '"' => some '"'
  | '\\' => some '\\'
  | '/' => some '/'
  | 'b' => some '\x08'
  | 'f' => some '\x0c'
  | 'n' => some '\n'
  | 'r' => some '\r'
  | 't' => some '\t'
  | _ => none

/-- What has been seen of a text between quotes. -/
structure Partial where
  /-- The characters, the last one first. -/
  reversed : List Char
  /-- A leading surrogate that still needs its trailing one. -/
  surrogate : Option Nat
  /-- The first error that only reading notices. -/
  flaw : Option SyntaxError
  /-- Whether some bytes were no character. -/
  stray : Bool

/-- The text before its first unit. -/
def Partial.start : Partial := ⟨[], none, none, false⟩

/-- Notes an error that only reading notices; the first one stays. -/
def Partial.flawed (p : Partial) (e : SyntaxError) : Partial :=
  { p with surrogate := none, flaw := p.flaw.or (some e) }

/-- A surrogate that no trailing one follows is an error. -/
def Partial.settle (p : Partial) : Partial :=
  if p.surrogate.isSome then p.flawed .endOfEscape else p

/-- Adds a character. -/
def Partial.push (p : Partial) (c : Char) : Partial := { p with reversed := c :: p.reversed }

/-- Adds what a hexadecimal escape writes. -/
def Partial.escape (p : Partial) (n : Nat) : Partial :=
  match p.surrogate with
  | some lead =>
    if 0xDC00 ≤ n ∧ n ≤ 0xDFFF then
      { p with surrogate := none }.push (Char.ofNat ((lead - 0xD800) * 0x400 + (n - 0xDC00) + 0x10000))
    else p.flawed .loneSurrogate
  | none =>
    if 0xDC00 ≤ n ∧ n ≤ 0xDFFF then p.flawed .loneSurrogate
    else if 0xD800 ≤ n ∧ n ≤ 0xDBFF then { p with surrogate := some n }
    else p.push (Char.ofNat n)

/-- The text at its closing quote. -/
def Partial.close (p : Partial) : Except SyntaxError String :=
  let p := p.settle
  match p.flaw with
  | some e => .error e
  | none => if p.stray then .error .invalidCodePoint else .ok (String.ofList p.reversed.reverse)

/-- The fault that ends a text; reading may have noticed an error before. -/
def Partial.fault (p : Partial) (e : SyntaxError) : Fault := ⟨p.flaw.getD e, e⟩

/-- The number of bytes of a unit. -/
def unitSize : Option Char → Nat
  | some c => c.utf8Size
  | none => 1

/-- What is left of a hexadecimal escape that is none: too few bytes, or wrong ones. -/
def escapeFault (p : Partial) (rest : Source) : Fault :=
  if (rest.take 4).foldl (fun n u => n + unitSize u) 0 < 4 then p.fault .endOfString else p.fault .invalidEscape

/-- The text up to its closing quote, and what follows it. -/
def readString (p : Partial) : Source → Except SyntaxError String × Rest
  | [] =>
    let f := p.fault .endOfString
    (.error f.reading, .error f)
  | some '"' :: rest => (p.close, .ok rest)
  | some '\\' :: some 'u' :: some a :: some b :: some c :: some d :: rest =>
    match hexFour? a b c d with
    | some n => readString (p.escape n) rest
    | none =>
      let f := p.fault .invalidEscape
      (.error f.reading, .error f)
  | some '\\' :: some 'u' :: rest =>
    let f := escapeFault p rest
    (.error f.reading, .error f)
  | some '\\' :: some c :: rest =>
    let p := p.settle
    match unescape? c with
    | some e => readString (p.push e) rest
    | none =>
      let f := p.fault .invalidEscape
      (.error f.reading, .error f)
  | some '\\' :: [] =>
    let f := p.fault .endOfString
    (.error f.reading, .error f)
  | some '\\' :: none :: _ =>
    let f := p.settle.fault .invalidEscape
    (.error f.reading, .error f)
  | some c :: rest =>
    let p := p.settle
    if c.toNat < 0x20 then
      let f := p.fault .controlCharacter
      (.error f.reading, .error f)
    else readString (p.push c) rest
  | none :: rest => readString { p.settle with stray := true } rest

/-! ### Numbers -/

/-- Whether a unit is a decimal digit. -/
def isDigit (u : Option Char) : Bool :=
  match u with
  | some c => '0' ≤ c && c ≤ '9'
  | none => false

/-- The digits at the start of the source, as characters. -/
def leadingDigits (s : Source) : List Char := (s.takeWhile isDigit).filterMap id

/-- The source behind its leading digits. -/
def afterDigits (s : Source) : Source := s.dropWhile isDigit

/-- The natural number that decimal digits write. -/
def natOfDigits (ds : List Char) : Nat := ds.foldl (fun n c => n * 10 + (c.toNat - '0'.toNat)) 0

/-- The fault of a number that needs a digit before `s`: at the end of the text reading finds the
value cut off. -/
def digitFault (s : Source) : Fault :=
  if s.isEmpty then ⟨.endOfValue, .invalidNumber⟩ else .both .invalidNumber

/-- A number as it is written: the digits before the point and behind it, and the exponent if there
is one. -/
structure Numeral where
  /-- Whether a minus stands before it. -/
  negative : Bool
  /-- The digits before the point. -/
  whole : List Char
  /-- The digits behind the point; none if there is no point. -/
  fraction : List Char
  /-- The exponent behind the letter `e`. -/
  exponent : Option Int

/-- The number that a numeral writes.  Without fraction and exponent it is an integer if it fits
64 bits; minus zero is a binary64 number. -/
def Numeral.value (n : Numeral) : Except SyntaxError Number :=
  let m := natOfDigits n.whole
  let i : Int := if n.negative then -m else m
  if h : (n.fraction = [] ∧ n.exponent = none ∧ ¬ (n.negative ∧ m = 0)) ∧ FitsInteger i then
    .ok (.integer i h.2)
  else
    match Double.ofDigits? n.negative n.whole n.fraction (n.exponent.getD 0) with
    | some d => .ok (.double d)
    | none => .error .numberOutOfRange

/-- The exponent behind the letter `e`, and what follows it. -/
def readExponent (s : Source) : Except Fault (Int × Source) :=
  let (negative, s) :=
    match s with
    | some '-' :: rest => (true, rest)
    | some '+' :: rest => (false, rest)
    | s => (false, s)
  match leadingDigits s with
  | [] => .error (digitFault s)
  | ds =>
    let n : Int := natOfDigits ds
    .ok (if negative then -n else n, afterDigits s)

/-- What follows the whole digits of a number. -/
def readFraction (negative : Bool) (whole : List Char) (s : Source) :
    Except Fault (Numeral × Source) :=
  match s with
  | some '.' :: rest =>
    match leadingDigits rest with
    | [] => .error (digitFault rest)
    | ds =>
      let after := afterDigits rest
      match after with
      | some 'e' :: rest | some 'E' :: rest => do
        let (e, rest) ← readExponent rest
        return (⟨negative, whole, ds, some e⟩, rest)
      | _ => .ok (⟨negative, whole, ds, none⟩, after)
  | some 'e' :: rest | some 'E' :: rest => do
    let (e, rest) ← readExponent rest
    return (⟨negative, whole, [], some e⟩, rest)
  | _ => .ok (⟨negative, whole, [], none⟩, s)

/-- The numeral at the start of the source, its sign already read. -/
def readNumeral (negative : Bool) (s : Source) : Except Fault (Numeral × Source) :=
  match leadingDigits s with
  | [] => .error (digitFault s)
  | '0' :: _ :: _ => .error (.both .invalidNumber)
  | ds => readFraction negative ds (afterDigits s)

/-- The number at the start of the source, its sign already read. -/
def readNumber (negative : Bool) (s : Source) : Document × Rest :=
  match readNumeral negative s with
  | .ok (n, rest) => (.number n.value, .ok rest)
  | .error f => (.broken .scalar f, .error f)

/-! ### Values -/

/-- The rest of the word whose first letter has been read. -/
def readWord (value : Document) (start : Start) : List Char → Source → Document × Rest
  | [], s => (value, .ok s)
  | _ :: _, [] => (.broken start (.both .endOfValue), .error (.both .endOfValue))
  | c :: cs, u :: s =>
    if u = some c then readWord value start cs s
    else (.broken start (.both .expectedWord), .error (.both .expectedWord))

mutual
/-- The value at the start of the source; `depth` containers may still be opened around it.  The
fuel only has to exceed the length of the source. -/
def readValue : Nat → Nat → Source → Document × Rest
  | 0, _, _ => (.broken .nothing (.both .endOfValue), .error (.both .endOfValue))
  | fuel + 1, depth, s =>
    match skipSpace s with
    | [] => (.broken .nothing (.both .endOfValue), .error (.both .endOfValue))
    | some 'n' :: rest => readWord .null .null ['u', 'l', 'l'] rest
    | some 't' :: rest => readWord (.bool true) .scalar ['r', 'u', 'e'] rest
    | some 'f' :: rest => readWord (.bool false) .scalar ['a', 'l', 's', 'e'] rest
    | some '-' :: rest => readNumber true rest
    | some '"' :: rest =>
      match readString .start rest with
      | (text, .ok rest) => (.string text, .ok rest)
      | (_, .error f) => (.broken .quote f, .error f)
    | some '[' :: rest =>
      let (items, after) := readItems fuel (depth - 1) true rest
      match after with
      | .ok rest => (.array (depth == 0) items none, .ok rest)
      | .error f => (.array (depth == 0) items (some f), .error f)
    | some '{' :: rest =>
      let (members, after) := readMembers fuel (depth - 1) true rest
      match after with
      | .ok rest => (.object (depth == 0) members none, .ok rest)
      | .error f => (.object (depth == 0) members (some f), .error f)
    | s =>
      if isDigit (s.headD none) then readNumber false s
      else (.broken .nothing (.both .expectedValue), .error (.both .expectedValue))

/-- The items of an array up to its bracket; before the first one no comma stands. -/
def readItems : Nat → Nat → Bool → Source → List Document × Rest
  | 0, _, _, _ => ([], .error (.both .endOfArray))
  | fuel + 1, depth, first, s =>
    match skipSpace s with
    | [] => ([], .error (.both .endOfArray))
    | some ']' :: rest => ([], .ok rest)
    | s =>
      if first then readItem fuel depth s
      else
        match s with
        | some ',' :: rest =>
          match skipSpace rest with
          | some ']' :: _ => ([], .error ⟨.trailingComma, .expectedValue⟩)
          | [] => ([], .error (.both .endOfValue))
          | s => readItem fuel depth s
        | _ => ([], .error (.both .expectedCommaOrBracket))

/-- An item of an array and those after it. -/
def readItem : Nat → Nat → Source → List Document × Rest
  | 0, _, _ => ([], .error (.both .endOfArray))
  | fuel + 1, depth, s =>
    match readValue fuel depth s with
    | (d, .error f) => ([d], .error f)
    | (d, .ok rest) =>
      let (items, after) := readItems fuel depth false rest
      (d :: items, after)

/-- The members of an object up to its brace; before the first one no comma stands. -/
def readMembers : Nat → Nat → Bool → Source →
    List (Except SyntaxError String × Document) × Rest
  | 0, _, _, _ => ([], .error (.both .endOfObject))
  | fuel + 1, depth, first, s =>
    match skipSpace s with
    | [] => ([], .error (.both .endOfObject))
    | some '}' :: rest => ([], .ok rest)
    | s =>
      if first then readMember fuel depth s
      else
        match s with
        | some ',' :: rest =>
          match skipSpace rest with
          | some '}' :: _ => ([], .error ⟨.trailingComma, .keyNotString⟩)
          | [] => ([], .error ⟨.endOfValue, .endOfObject⟩)
          | s => readMember fuel depth s
        | _ => ([], .error (.both .expectedCommaOrBrace))

/-- A member of an object and those after it. -/
def readMember : Nat → Nat → Source → List (Except SyntaxError String × Document) × Rest
  | 0, _, _ => ([], .error (.both .endOfObject))
  | fuel + 1, depth, s =>
    match s with
    | some '"' :: rest =>
      match readString .start rest with
      | (_, .error f) => ([], .error f)
      | (key, .ok rest) =>
        match skipSpace rest with
        | some ':' :: rest =>
          match readValue fuel depth rest with
          | (d, .error f) => ([(key, d)], .error f)
          | (d, .ok rest) =>
            let (members, after) := readMembers fuel depth false rest
            ((key, d) :: members, after)
        | [] => ([(key, .broken .nothing (.both .endOfObject))], .error (.both .endOfObject))
        | _ => ([(key, .broken .nothing (.both .expectedColon))], .error (.both .expectedColon))
    | _ => ([], .error (.both .keyNotString))
end

/-- What a text says: its document, and whether anything but blanks follows it. -/
structure Reading where
  /-- The document. -/
  document : Document
  /-- Whether something follows it. -/
  more : Bool

/-- Reads a text. -/
def readText (s : Source) : Reading :=
  match readValue (3 * s.length + 3) depthLimit s with
  | (d, .error _) => ⟨d, false⟩
  | (d, .ok rest) => ⟨d, !(skipSpace rest).isEmpty⟩

/-- The value that a text writes. -/
def parse (s : Source) : Except SyntaxError Value := do
  let t := readText s
  let v ← t.document.toValue
  if t.more then .error .trailingCharacters else .ok v

end Fleet.Json

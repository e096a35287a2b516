import Fleet.Text.Blank

/-! # Instants

A point in time, counted in UTC seconds with a fraction; a leap second is the second before it
with a fraction of one second or more.  `Instant.parse` reads RFC 3339 leniently: blanks may stand
between the parts, a blank or either case of `T` separates date and time, and digits of a fraction
beyond the ninth are dropped.  `Instant.print` writes UTC with the shortest of 0, 3, 6 or 9 fraction
digits that is exact. -/

namespace Fleet

/-- A point in time. -/
structure Instant where
  /-- Seconds since the start of 1970, without leap seconds. -/
  seconds : Int
  /-- Nanoseconds into the second; from 10⁹ on, into the leap second after it. -/
  nanos : Nat
  deriving DecidableEq, Repr

namespace Instant

/-- The order in time. -/
def before (a b : Instant) : Bool :=
  a.seconds < b.seconds || (a.seconds == b.seconds && a.nanos < b.nanos)

instance : Inhabited Instant := ⟨⟨0, 0⟩⟩

/-- The nanoseconds of a second. -/
def nanosPerSecond : Nat := 1000000000

/-! ### The calendar -/

/-- Whether a year has a leap day. -/
def isLeap (year : Int) : Bool := year % 4 == 0 && (year % 100 != 0 || year % 400 == 0)

/-- The number of days of a month. -/
def daysInMonth (year : Int) (month : Nat) : Nat :=
  match month with
  | 2 => if isLeap year then 29 else 28
  | 4 | 6 | 9 | 11 => 30
  | _ => 31

/-- Days from the start of 1970 to a date.  Years are taken to start in March, so that the leap
day is their last. -/
def daysOfDate (year : Int) (month day : Nat) : Int :=
  let y := if month ≤ 2 then year - 1 else year
  let era := y.fdiv 400
  let yearOfEra := y - era * 400
  let monthOfYear : Int := if 2 < month then month - 3 else month + 9
  let dayOfYear := (153 * monthOfYear + 2).fdiv 5 + day - 1
  let dayOfEra := yearOfEra * 365 + yearOfEra.fdiv 4 - yearOfEra.fdiv 100 + dayOfYear
  era * 146097 + dayOfEra - 719468

/-- The date that lies a number of days from the start of 1970. -/
def dateOfDays (days : Int) : Int × Nat × Nat :=
  let z := days + 719468
  let era := z.fdiv 146097
  let dayOfEra := z - era * 146097
  let yearOfEra :=
    (dayOfEra - dayOfEra.fdiv 1460 + dayOfEra.fdiv 36524 - dayOfEra.fdiv 146096).fdiv 365
  let dayOfYear := dayOfEra - (365 * yearOfEra + yearOfEra.fdiv 4 - yearOfEra.fdiv 100)
  let monthOfYear := (5 * dayOfYear + 2).fdiv 153
  let day := dayOfYear - (153 * monthOfYear + 2).fdiv 5 + 1
  let month := if monthOfYear < 10 then monthOfYear + 3 else monthOfYear - 9
  let year := yearOfEra + era * 400
  (if month ≤ 2 then year + 1 else year, month.toNat, day.toNat)

/-! ### Reading -/

/-- Why a text is no instant. -/
inductive ParseError where
  | outOfRange
  | invalid
  | tooShort
  | tooLong
  /-- In UTC it lies before the first day of the calendar, or after the last. -/
  | outsideCalendar
  deriving DecidableEq, Repr

/-- The wording of a parse error. -/
def ParseError.message : ParseError → String
  | .outOfRange => "input is out of range"
  | .invalid => "input contains invalid characters"
  | .tooShort => "premature end of input"
  | .tooLong => "trailing input"
  | .outsideCalendar => "no possible date and time matching input"

/-- Reads parts of a text one after the other; the state is what follows. -/
abbrev Parser := StateT (List Char) (Except ParseError)

/-- Whether a character is a decimal digit. -/
def isDigit (c : Char) : Bool := '0' ≤ c && c ≤ '9'

/-- The number that decimal digits write. -/
def digitsValue (ds : List Char) : Nat := ds.foldl (fun n c => n * 10 + (c.toNat - '0'.toNat)) 0

/-- Leaves out blanks. -/
def blanks : Parser Unit := modify Text.trimStart

/-- The leading digits, at most `most` of them and at least one. -/
def digits (most : Nat) : Parser (List Char) := do
  let cs ← get
  let ds := (cs.take most).takeWhile isDigit
  if cs.isEmpty then throw .tooShort
  if ds.isEmpty then throw .invalid
  set (cs.drop ds.length)
  return ds

/-- A number of at most `most` digits in the given range, blanks before it left out. -/
def number (most low high : Nat) : Parser Nat := do
  blanks
  let n := digitsValue (← digits most)
  if low ≤ n ∧ n ≤ high then return n else throw .outOfRange

/-- A number of any length below 2⁶³. -/
def wholeNumber : Parser Nat := do
  let n := digitsValue (← digits (← get).length)
  if n < 9223372036854775808 then return n else throw .outOfRange

/-- A year: four digits at most, or any number of them behind a sign. -/
def year : Parser Int := do
  blanks
  let y : Int ← (do
    match ← get with
    | '-' :: rest =>
      set rest
      return -(← wholeNumber : Nat)
    | '+' :: rest =>
      set rest
      return (← wholeNumber : Nat)
    | _ => return digitsValue (← digits 4))
  if -2147483648 ≤ y ∧ y < 2147483648 then return y else throw .outOfRange

/-- The character `c`, blanks before it left out. -/
def mark (c : Char) : Parser Unit := do
  blanks
  match ← get with
  | [] => throw .tooShort
  | d :: rest => if c = d then set rest else throw .invalid

/-- What stands between date and time. -/
def separator : Parser Unit := do
  match ← get with
  | 't' :: rest | 'T' :: rest | ' ' :: rest => set rest
  | [] => throw .tooShort
  | _ => throw .invalid

/-- The fraction of a second in nanoseconds, if there is one. -/
def fraction : Parser Nat := do
  match ← get with
  | '.' :: rest =>
    set rest
    let ds ← digits 9
    modify (List.dropWhile isDigit)
    return digitsValue ds * Nat.pow 10 (9 - ds.length)
  | _ => return 0

/-- Two digits, the first of them not above `high`. -/
def twoDigits (high : Char) : Parser Nat := do
  match ← get with
  | a :: b :: rest =>
    if !(isDigit a && isDigit b) then throw .invalid
    if high < a then throw .outOfRange
    set rest
    return digitsValue [a, b]
  | [c] => if c.toNat < 0x80 then throw .tooShort else throw .invalid
  | [] => throw .tooShort

/-- Whether a sign is a minus. -/
def sign : Parser Bool := do
  match ← get with
  | [] => throw .tooShort
  | c :: rest =>
    set rest
    if c = '+' then return false
    else if c = '-' ∨ c = '\u2212' then return true
    else throw .invalid

/-- The distance from UTC in seconds: a letter for none, or a sign, hours and minutes with colons
or blanks between them. -/
def offset : Parser Int := do
  blanks
  let cs ← get
  if (cs.take 1).map Char.toUpper = ['Z'] then
    set (cs.drop 1)
    return 0
  else if (cs.take 3).map Char.toUpper = ['U', 'T', 'C'] then
    set (cs.drop 3)
    return 0
  else
    let negative ← sign
    let hours ← twoDigits '9'
    modify (List.dropWhile (fun c => c == ':' || Text.isBlank c))
    let minutes ← twoDigits '5'
    let seconds : Int := hours * 3600 + minutes * 60
    return if negative then -seconds else seconds

/-- The years that a calendar date may have. -/
def yearRange : Int × Int := (-262143, 262142)

/-- The first second of the calendar. -/
def firstSecond : Int := daysOfDate yearRange.1 1 1 * 86400

/-- The last second of the calendar. -/
def lastSecond : Int := daysOfDate (yearRange.2 + 1) 1 1 * 86400 - 1

/-- An instant, blanks around it left out.  Both its date and its date in UTC are of the
calendar. -/
def instant : Parser Instant := do
  let y ← year
  mark '-'
  let month ← number 2 1 12
  mark '-'
  let day ← number 2 1 31
  separator
  let hour ← number 2 0 23
  mark ':'
  let minute ← number 2 0 59
  mark ':'
  let second ← number 2 0 60
  let nanos ← fraction
  let shift ← offset
  blanks
  if !(← get).isEmpty then throw .tooLong
  if 86400 ≤ shift.natAbs then throw .outOfRange
  if y < yearRange.1 ∨ yearRange.2 < y ∨ daysInMonth y month < day then throw .outOfRange
  let (second, nanos) := if second = 60 then (59, nanos + nanosPerSecond) else (second, nanos)
  let ofDay := hour * 3600 + minute * 60 + second
  let seconds := daysOfDate y month day * 86400 + ofDay - shift
  if seconds < firstSecond ∨ lastSecond < seconds then throw .outsideCalendar
  return ⟨seconds, nanos⟩

/-- Reads a text as an instant. -/
def parse (s : String) : Except ParseError Instant := (instant.run s.toList).map Prod.fst

/-! ### Writing -/

/-- A number with zeros in front up to `width` digits. -/
def padded (width n : Nat) : List Char :=
  let ds := Nat.toDigits 10 n
  List.replicate (width - ds.length) '0' ++ ds

/-- A year of four digits; any other with its sign. -/
def printYear (y : Int) : List Char :=
  if 0 ≤ y ∧ y ≤ 9999 then padded 4 y.toNat
  else (if y < 0 then '-' else '+') :: padded 4 y.natAbs

/-- The fraction of a second, in as few groups of three digits as hold it. -/
def printFraction (nanos : Nat) : List Char :=
  if nanos = 0 then []
  else if nanos % 1000000 = 0 then '.' :: padded 3 (nanos / 1000000)
  else if nanos % 1000 = 0 then '.' :: padded 6 (nanos / 1000)
  else '.' :: padded 9 nanos

/-- Date and time up to the second. -/
def printSeconds (t : Instant) : List Char :=
  let days := t.seconds.fdiv 86400
  let ofDay := (t.seconds - days * 86400).toNat
  let (y, month, day) := dateOfDays days
  let second := ofDay % 60 + t.nanos / nanosPerSecond
  printYear y ++ '-' :: padded 2 month ++ '-' :: padded 2 day ++ 'T' :: padded 2 (ofDay / 3600) ++
    ':' :: padded 2 (ofDay / 60 % 60) ++ ':' :: padded 2 second

/-- The instant in UTC. -/
def print (t : Instant) : String :=
  String.ofList (printSeconds t ++ printFraction (t.nanos % nanosPerSecond) ++ ['Z'])

/-- The instant in UTC, its fraction dropped. -/
def printWhole (t : Instant) : String := String.ofList (printSeconds t ++ ['Z'])

end Instant
end Fleet

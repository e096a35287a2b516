/-! # Identifiers

Tenants and clusters are called by lower-case labels of at most 63 characters that start with
`t-` or `c-`.  An identifier that a client leaves open is drawn at random: an adjective, a noun and
a number.

Randomness is a stream of 32-bit words.  A number below `n` is the upper half of a word times `n`;
where the lower half leaves room for a carry, a second word decides it. -/

namespace Fleet

/-- Draws from a stream of words; the state counts the words drawn. -/
abbrev Draw := ReaderT (Nat → UInt32) (StateM Nat)

namespace Draw

/-- Words are below this. -/
def wordBound : Nat := 4294967296

/-- The next word. -/
def word : Draw Nat := do
  let words ← read
  modifyGet (fun used => ((words used).toNat, used + 1))

/-- A number below `n`. -/
def below (n : Nat) : Draw Nat := do
  let p := (← word) * n
  let high := p / wordBound
  let low := p % wordBound
  if wordBound < low + n then
    let carry := (low + (← word) * n / wordBound) / wordBound
    return high + carry
  return high

/-- An item of a list; `other` if the list is empty. -/
def item (items : List String) (other : String) : Draw String := do
  if items.isEmpty then return other
  return items.getD (← below items.length) other

end Draw

namespace Ident

/-- The first words of drawn identifiers. -/
def adjectives : List String := [
  "amber", "ancient", "autumn", "billowing", "bitter", "black", "blue", "bold", "brave", "brisk",
  "calm", "cold", "cool", "crimson", "damp", "dark", "dawn", "delicate", "divine", "dry", "empty",
  "falling", "fancy", "floral", "fragrant", "frosty", "gentle", "green", "hidden", "holy", "icy",
  "jolly", "late", "lingering", "little", "lively", "long", "lucky", "misty", "morning", "muddy",
  "mute", "nameless", "noisy", "odd", "old", "orange", "patient", "plain", "polished", "proud",
  "purple", "quiet", "rapid", "raspy", "red", "restless", "rough", "round", "royal", "shiny",
  "shy", "silent", "small", "snowy", "soft", "solitary", "sparkling", "spring", "square", "steep",
  "still", "summer", "super", "sweet", "throbbing", "tight", "tiny", "twilight", "wandering",
  "weathered", "white", "wild", "winter", "wispy", "withered", "yellow", "young"]

/-- The second words of drawn identifiers. -/
def nouns : List String := [
  "art", "band", "bar", "base", "bird", "block", "boat", "bonus", "bread", "breeze", "brook",
  "bush", "butterfly", "cake", "cell", "cherry", "cloud", "credit", "darkness", "dawn", "dew",
  "disk", "dream", "dust", "feather", "field", "fire", "firefly", "flower", "fog", "forest",
  "frog", "frost", "glade", "glitter", "grass", "hall", "hat", "haze", "heart", "hill", "king",
  "lab", "lake", "leaf", "limit", "math", "meadow", "mode", "moon", "morning", "mountain",
  "mouse", "mud", "night", "paper", "pine", "poetry", "pond", "queen", "rain", "recipe",
  "resonance", "rice", "river", "salad", "scene", "sea", "shadow", "shape", "silence", "sky",
  "smoke", "snow", "snowflake", "sound", "star", "sun", "sunset", "surf", "term", "thunder",
  "tooth", "tree", "truth", "union", "unit", "violet", "voice", "water", "waterfall", "wave",
  "wildflower", "wind", "wood"]

/-- The numbers of drawn identifiers are below this. -/
def numberBound : Nat := 10000

/-- How many identifiers are drawn before giving up. -/
def attempts : Nat := 10

/-- The greatest length of an identifier. -/
def maxLength : Nat := 63

/-- How the identifiers of tenants start. -/
def tenantStart : String := "t-"

/-- How the identifiers of clusters start. -/
def clusterStart : String := "c-"

/-- No identifier was drawn that is short enough. -/
structure Exhausted where
  start : String
  attempts : Nat
  deriving DecidableEq, Repr

/-- The wording of a failed draw. -/
def Exhausted.message (e : Exhausted) : String :=
  "unable to generate an identifier with prefix '" ++ e.start ++ "' within " ++
    toString e.attempts ++ " attempts"

/-- An adjective, a noun and a number. -/
def slug : Draw String := do
  let adjective ← Draw.item adjectives "plain"
  let noun ← Draw.item nouns "field"
  let number ← Draw.below numberBound
  return adjective ++ "-" ++ noun ++ "-" ++ toString number

/-- Draws up to `tries` identifiers until one has at most `bound` bytes. -/
def draw (start : String) (bound : Nat) : Nat → Draw (Except Exhausted String)
  | 0 => return .error ⟨start, attempts⟩
  | tries + 1 => do
    let id := start ++ (← slug)
    if id.utf8ByteSize ≤ bound then return .ok id
    draw start bound tries

/-- Draws an identifier of at most `bound` bytes. -/
def generate (start : String) (bound : Nat) : Draw (Except Exhausted String) :=
  draw start bound attempts

/-- The identifier that is meant by `id`: a drawn one if it is empty, else one that starts as it
should. -/
def normalize (id start : String) : Draw (Except Exhausted String) :=
  if id.isEmpty then generate start maxLength
  else return .ok (if start.toList.isPrefixOf id.toList then id else start ++ id)

/-- Whether a character may stand in an identifier. -/
def isIdentChar (c : Char) : Bool := ('a' ≤ c && c ≤ 'z') || c.isDigit || c == '-'

/-- Whether `id` is a lower-case label: letters, digits and inner hyphens. -/
def isValid (id : String) : Bool :=
  !id.isEmpty && id.utf8ByteSize ≤ maxLength && id.toList.all isIdentChar &&
    id.toList.head? != some '-' && id.toList.getLast? != some '-'

/-- The wording for an identifier that is not valid. -/
def invalidMessage (id : String) : String :=
  "invalid identifier '" ++ id ++ "': must be a lowercase DNS label of at most " ++
    toString maxLength ++ " characters"

end Ident
end Fleet

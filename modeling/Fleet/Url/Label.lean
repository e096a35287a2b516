import Fleet.Text.CombiningClass
import Fleet.Text.Direction
import Fleet.Text.Joining

/-! # Labels of international domain names

The rules that the labels between the dots of a name obey beyond the choice of their characters: a
label does not start with a mark, a joiner stands only where it makes a difference, and if a name
has a character that is written from right to left, each label is written in one direction. -/

namespace Fleet.Url

open Text

/-! ### Joiners -/

/-- Whether a character keeps its neighbours joined or apart without a picture of its own. -/
def isJoiner (c : Char) : Bool := c == '\u200C' || c == '\u200D'

/-- Whether the first character that is not transparent joins as asked. -/
def joins (side : Joining → Bool) : List Char → Bool
  | [] => false
  | c :: rest =>
    let j := Joining.of c
    side j || (j = .transparent && joins side rest)

/-- Whether a joiner may stand behind `before`, last character first, and before `after`: behind a
virama, or to keep apart two letters that would be joined. -/
def joinerAllowed (joiner : Char) (before after : List Char) : Bool :=
  before.head?.any (combiningClass · == viramaClass) ||
    (joiner == '\u200C' && joins Joining.joinsAfter before && joins Joining.joinsBefore after)

/-- Whether all joiners of a label may stand where they do. -/
def joinersAllowed (before : List Char) : List Char → Bool
  | [] => true
  | c :: rest =>
    (!isJoiner c || joinerAllowed c before rest) && joinersAllowed (c :: before) rest

/-- Whether a label starts as one and its joiners are allowed. -/
def isWellJoined (label : List Char) : Bool :=
  label.all (·.toNat < 0x80) ||
    (!(label.head?.any isMark) && joinersAllowed [] label)

/-! ### Directions -/

/-- Whether a label has a character written from right to left. -/
def readsRight (label : List Char) : Bool :=
  label.any (fun c => Direction.of c = .right || Direction.of c = .arabicNumber)

/-- Whether what follows the first character of a label, less the marks at its end, goes on in
the direction of the first one. -/
def continues (first : Direction) (body : List Direction) : Bool :=
  match first with
  | .left =>
    body.all (fun d => d ≠ .right && d ≠ .arabicNumber) &&
      body.getLast?.all (fun d => d = .left || d = .europeanNumber)
  | .right =>
    body.all (· ≠ .left) && body.getLast?.all (fun d => d ≠ .neutral) &&
      !(body.contains .europeanNumber && body.contains .arabicNumber)
  | _ => false

/-- Whether a label is written in one direction: it starts with a letter, ends with a letter or a
number, and does not mix kinds of number. -/
def hasOneDirection (label : List Char) : Bool :=
  match label.map Direction.of with
  | [] => true
  | first :: rest => continues first (rest.reverse.dropWhile (· = .mark)).reverse

/-- Whether the labels of a name may stand together. -/
def directionsAllowed (labels : List (List Char)) : Bool :=
  !(labels.any readsRight) || labels.all hasOneDirection

end Fleet.Url

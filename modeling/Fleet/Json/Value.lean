import Fleet.Decimal.Double
import Fleet.Dict

/-! # JSON values

Numbers are integers from the least 64-bit signed to the greatest 64-bit unsigned one, or binary64
numbers; `1` and `1.0` differ.  The members of an object stand in the order of their names, each
name once (`Value.ofMembers` puts them so), hence equal objects are equal values. -/

namespace Fleet.Json

open Fleet.Decimal

/-- Whether an integer is written as one: it fits 64 bits, signed or unsigned. -/
def FitsInteger (i : Int) : Prop := -9223372036854775808 ≤ i ∧ i < 18446744073709551616

instance (i : Int) : Decidable (FitsInteger i) := inferInstanceAs (Decidable (_ ∧ _))

/-- A JSON number. -/
inductive Number where
  /-- An integer of at most 64 bits. -/
  | integer (value : Int) (fits : FitsInteger value)
  /-- A binary64 number, also a whole one. -/
  | double (value : Double)
  deriving DecidableEq

/-- A JSON value. -/
inductive Value where
  | null
  | bool (value : Bool)
  | number (value : Number)
  | string (value : String)
  | array (items : List Value)
  | object (members : List (String × Value))

instance : Inhabited Value := ⟨.null⟩

/-- An integer as a number: as it is if it fits 64 bits, else the nearest binary64 number. -/
def Number.ofInt (i : Int) : Number :=
  if h : FitsInteger i then .integer i h
  else .double ((Double.nearest? (i < 0) i.natAbs 1).getD (Double.zero false))

/-- An integer as a value. -/
def Value.ofInt (i : Int) : Value := .number (.ofInt i)

/-- The object with the given members; of a name given twice the last value stays. -/
def Value.ofMembers (members : List (String × Value)) : Value :=
  .object (members.foldl (fun l m => Dict.insertIn m.1 m.2 l) [])

/-- The object whose members are the entries of a dictionary. -/
def Value.ofDict (d : Dict Value) : Value := .object d.entries

/-- The object of a dictionary of texts. -/
def Value.ofStrings (d : Dict String) : Value := .ofDict (d.map .string)

mutual
/-- Equality of values. -/
def Value.decEq : (a b : Value) → Decidable (a = b)
  | .null, .null => isTrue rfl
  | .bool a, .bool b =>
    if h : a = b then isTrue (by rw [h]) else isFalse (fun e => h (Value.bool.inj e))
  | .number a, .number b =>
    if h : a = b then isTrue (by rw [h]) else isFalse (fun e => h (Value.number.inj e))
  | .string a, .string b =>
    if h : a = b then isTrue (by rw [h]) else isFalse (fun e => h (Value.string.inj e))
  | .array a, .array b =>
    match decEqItems a b with
    | isTrue h => isTrue (by rw [h])
    | isFalse h => isFalse (fun e => h (Value.array.inj e))
  | .object a, .object b =>
    match decEqMembers a b with
    | isTrue h => isTrue (by rw [h])
    | isFalse h => isFalse (fun e => h (Value.object.inj e))
  | .null, .bool _ | .null, .number _ | .null, .string _ | .null, .array _ | .null, .object _
  | .bool _, .null | .bool _, .number _ | .bool _, .string _ | .bool _, .array _
  | .bool _, .object _
  | .number _, .null | .number _, .bool _ | .number _, .string _ | .number _, .array _
  | .number _, .object _
  | .string _, .null | .string _, .bool _ | .string _, .number _ | .string _, .array _
  | .string _, .object _
  | .array _, .null | .array _, .bool _ | .array _, .number _ | .array _, .string _
  | .array _, .object _
  | .object _, .null | .object _, .bool _ | .object _, .number _ | .object _, .string _
  | .object _, .array _ => isFalse nofun

/-- Equality of lists of values. -/
def decEqItems : (a b : List Value) → Decidable (a = b)
  | [], [] => isTrue rfl
  | [], _ :: _ | _ :: _, [] => isFalse nofun
  | a :: as, b :: bs =>
    match Value.decEq a b, decEqItems as bs with
    | isTrue h, isTrue t => isTrue (by rw [h, t])
    | isFalse h, _ => isFalse (fun e => h (List.cons.inj e).1)
    | _, isFalse t => isFalse (fun e => t (List.cons.inj e).2)

/-- Equality of lists of members. -/
def decEqMembers : (a b : List (String × Value)) → Decidable (a = b)
  | [], [] => isTrue rfl
  | [], _ :: _ | _ :: _, [] => isFalse nofun
  | (k, a) :: as, (j, b) :: bs =>
    if hk : k = j then
      match Value.decEq a b, decEqMembers as bs with
      | isTrue h, isTrue t => isTrue (by rw [hk, h, t])
      | isFalse h, _ => isFalse (fun e => h (Prod.mk.inj (List.cons.inj e).1).2)
      | _, isFalse t => isFalse (fun e => t (List.cons.inj e).2)
    else isFalse (fun e => hk (Prod.mk.inj (List.cons.inj e).1).1)
end

instance : DecidableEq Value := Value.decEq

end Fleet.Json

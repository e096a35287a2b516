import Fleet.Proofs.Json.Value
import Fleet.Proofs.Result

/-! # Documents without faults

A document that is read as a value has no faults: it is the document of a value in which names may still
be given twice, and which reading settles (`Document.toValue_eq_ok_iff`). -/

namespace Fleet.Json

/-! ### Objects -/

theorem entries_foldl_insert (l : List (String × Value)) (d : Dict Value) :
    (l.foldl (fun d e => d.insert e.1 e.2) d).entries =
      l.foldl (fun l m => Dict.insertIn m.1 m.2 l) d.entries := by
  induction l generalizing d with
  | nil => rfl
  | cons e l ih => exact ih (d.insert e.1 e.2)

theorem Value.ofMembers_eq (members : List (String × Value)) :
    Value.ofMembers members = .ofDict (.ofList members) :=
  congrArg Value.object (entries_foldl_insert members .empty).symm

/-! ### What reading settles -/

mutual
/-- The value as it is read: of a member given twice the last value stays. -/
def Value.settle : Value → Value
  | .null => .null
  | .bool b => .bool b
  | .number n => .number n
  | .string s => .string s
  | .array items => .array (settleItems items)
  | .object members => .ofMembers (settleMembers members)

/-- The items of an array as they are read. -/
def settleItems : List Value → List Value
  | [] => []
  | v :: rest => v.settle :: settleItems rest

/-- The members of an object as they are read. -/
def settleMembers : List (String × Value) → List (String × Value)
  | [] => []
  | (k, v) :: rest => (k, v.settle) :: settleMembers rest
end

theorem settleItems_eq_map (items : List Value) : settleItems items = items.map Value.settle := by
  induction items with
  | nil => rfl
  | cons v rest ih => rw [settleItems, ih, List.map_cons]

theorem settleMembers_eq_map (members : List (String × Value)) :
    settleMembers members = members.map (fun m => (m.1, m.2.settle)) := by
  induction members with
  | nil => rfl
  | cons m rest ih => rw [settleMembers, ih, List.map_cons]

theorem Document.ofMembers_eq_map (members : List (String × Value)) :
    ofMembers members = members.map (fun m => (.ok m.1, ofValue m.2)) := by
  induction members with
  | nil => rfl
  | cons m rest ih => rw [ofMembers, ih, List.map_cons]

/-- An object as it is read. -/
theorem Value.settle_object (members : List (String × Value)) :
    (Value.object members).settle = .ofDict ((Dict.ofList members).map Value.settle) := by
  rw [settle, ofMembers_eq, settleMembers_eq_map, Dict.map_ofList]

theorem Value.exists_object_of_settle {v : Value} {members : List (String × Value)}
    (h : v.settle = .object members) : ∃ given, v = .object given := by
  cases v with
  | object given => exact ⟨given, rfl⟩
  | null | bool _ | number _ | string _ | array _ => cases h

/-! ### Reading -/

namespace Document

mutual
theorem toValue_ofValue_eq : ∀ v : Value, (ofValue v).toValue = .ok v.settle
  | .null => rfl
  | .bool _ => rfl
  | .number _ => rfl
  | .string _ => rfl
  | .array items => by
      rw [ofValue, toValue, toItems_ofItems_eq items]
      rfl
  | .object members => by
      rw [ofValue, toValue, toMembers_ofMembers_eq members]
      rfl

theorem toItems_ofItems_eq : ∀ items : List Value, toItems (ofItems items) = .ok (settleItems items)
  | [] => rfl
  | v :: rest => by
      rw [ofItems, toItems, toValue_ofValue_eq v, toItems_ofItems_eq rest]
      rfl

theorem toMembers_ofMembers_eq : ∀ members : List (String × Value),
    toMembers (ofMembers members) = .ok (settleMembers members)
  | [] => rfl
  | (k, v) :: rest => by
      rw [ofMembers, toMembers, toValue_ofValue_eq v, toMembers_ofMembers_eq rest]
      rfl
end

theorem ending_of_close {ending : Option Fault} {error : Fault → SyntaxError} {u : Unit}
    (h : close ending error = .ok u) : ending = none := by
  cases ending with
  | none => rfl
  | some f => cases h

mutual
theorem exists_ofValue : ∀ {d : Document} {v : Value}, d.toValue = .ok v →
    ∃ given, d = ofValue given
  | .null, _, _ => ⟨.null, rfl⟩
  | .bool b, _, _ => ⟨.bool b, rfl⟩
  | .number n, _, h => by
      obtain ⟨n, rfl, -⟩ := Result.exists_of_map h
      exact ⟨.number n, rfl⟩
  | .string s, _, h => by
      obtain ⟨s, rfl, -⟩ := Result.exists_of_map h
      exact ⟨.string s, rfl⟩
  | .array true _ _, _, h => by cases h
  | .array false items ending, _, h => by
      obtain ⟨values, hvalues, h⟩ := Result.exists_of_bind h
      obtain ⟨_, hending, -⟩ := Result.exists_of_bind h
      obtain ⟨given, rfl⟩ := exists_ofItems hvalues
      obtain rfl := ending_of_close hending
      exact ⟨.array given, rfl⟩
  | .object true _ _, _, h => by cases h
  | .object false members ending, _, h => by
      obtain ⟨values, hvalues, h⟩ := Result.exists_of_bind h
      obtain ⟨_, hending, -⟩ := Result.exists_of_bind h
      obtain ⟨given, rfl⟩ := exists_ofMembers hvalues
      obtain rfl := ending_of_close hending
      exact ⟨.object given, rfl⟩
  | .broken _ _, _, h => by cases h

theorem exists_ofItems : ∀ {items : List Document} {values : List Value},
    toItems items = .ok values → ∃ given, items = ofItems given
  | [], _, _ => ⟨[], rfl⟩
  | d :: rest, _, h => by
      obtain ⟨v, hv, h⟩ := Result.exists_of_bind h
      obtain ⟨values, hvalues, -⟩ := Result.exists_of_bind h
      obtain ⟨given, rfl⟩ := exists_ofValue hv
      obtain ⟨others, rfl⟩ := exists_ofItems hvalues
      exact ⟨given :: others, rfl⟩

theorem exists_ofMembers : ∀ {members : List (Except SyntaxError String × Document)}
    {values : List (String × Value)}, toMembers members = .ok values →
    ∃ given, members = ofMembers given
  | [], _, _ => ⟨[], rfl⟩
  | (key, d) :: rest, _, h => by
      obtain ⟨k, hkey, h⟩ := Result.exists_of_bind h
      obtain ⟨v, hv, h⟩ := Result.exists_of_bind h
      obtain ⟨values, hvalues, -⟩ := Result.exists_of_bind h
      obtain rfl := hkey
      obtain ⟨given, rfl⟩ := exists_ofValue hv
      obtain ⟨others, rfl⟩ := exists_ofMembers hvalues
      exact ⟨(k, given) :: others, rfl⟩
end

/-- A document that is read as a value is the document of what was given for it. -/
theorem toValue_eq_ok_iff {d : Document} {v : Value} :
    d.toValue = .ok v ↔ ∃ given, d = ofValue given ∧ given.settle = v := by
  constructor
  · intro h
    obtain ⟨given, rfl⟩ := exists_ofValue h
    rw [toValue_ofValue_eq] at h
    exact ⟨given, rfl, Except.ok.inj h⟩
  · rintro ⟨given, rfl, rfl⟩
    exact toValue_ofValue_eq given

end Document

end Fleet.Json

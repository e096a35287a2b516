import Fleet.Json.Document
import Fleet.Proofs.Dict

/-! # Values and their documents

`Value.Fits` says of a value what is true of every value that a text writes: it is nested at most so
deep, and the members of its objects stand in the order of their names.  The document of such a
value reads as the value (`Document.toValue_ofValue`).  `Value.doubles` are the binary64 numbers in a
value, which a text may not write as they are. -/

namespace Fleet.Json

open Decimal

mutual
/-- The value is nested at most `depth` deep, and its objects are in order. -/
def Value.Fits : Nat → Value → Prop
  | _, .null => True
  | _, .bool _ => True
  | _, .number _ => True
  | _, .string _ => True
  | depth, .array items => 0 < depth ∧ FitsItems (depth - 1) items
  | depth, .object members =>
    0 < depth ∧ members.Pairwise (fun a b => a.1 < b.1) ∧ FitsMembers (depth - 1) members

/-- The items of an array fit. -/
def FitsItems : Nat → List Value → Prop
  | _, [] => True
  | depth, v :: rest => v.Fits depth ∧ FitsItems depth rest

/-- The members of an object fit. -/
def FitsMembers : Nat → List (String × Value) → Prop
  | _, [] => True
  | depth, (_, v) :: rest => v.Fits depth ∧ FitsMembers depth rest
end

theorem fitsMembers_iff {depth : Nat} {members : List (String × Value)} :
    FitsMembers depth members ↔ ∀ m ∈ members, m.2.Fits depth := by
  induction members with
  | nil => simp [FitsMembers]
  | cons m rest ih => rw [FitsMembers, ih, List.forall_mem_cons]

mutual
/-- What fits, fits where more levels are left. -/
theorem Value.Fits.mono {depth depth' : Nat} (hle : depth ≤ depth') :
    ∀ {v : Value}, v.Fits depth → v.Fits depth'
  | .null, _ | .bool _, _ | .number _, _ | .string _, _ => trivial
  | .array _, h => ⟨Nat.lt_of_lt_of_le h.1 hle, FitsItems.mono (Nat.sub_le_sub_right hle 1) h.2⟩
  | .object _, h =>
    ⟨Nat.lt_of_lt_of_le h.1 hle, h.2.1, FitsMembers.mono (Nat.sub_le_sub_right hle 1) h.2.2⟩

theorem FitsItems.mono {depth depth' : Nat} (hle : depth ≤ depth') :
    ∀ {items : List Value}, FitsItems depth items → FitsItems depth' items
  | [], _ => trivial
  | _ :: _, h => ⟨Value.Fits.mono hle h.1, FitsItems.mono hle h.2⟩

theorem FitsMembers.mono {depth depth' : Nat} (hle : depth ≤ depth') :
    ∀ {members : List (String × Value)}, FitsMembers depth members → FitsMembers depth' members
  | [], _ => trivial
  | (_, _) :: _, h => ⟨Value.Fits.mono hle h.1, FitsMembers.mono hle h.2⟩
end

/-! ### Binary64 numbers -/

mutual
/-- The binary64 numbers in a value. -/
def Value.doubles : Value → List Double
  | .null | .bool _ | .string _ | .number (.integer _ _) => []
  | .number (.double d) => [d]
  | .array items => itemDoubles items
  | .object members => memberDoubles members

/-- The binary64 numbers in the items of an array. -/
def itemDoubles : List Value → List Double
  | [] => []
  | v :: rest => v.doubles ++ itemDoubles rest

/-- The binary64 numbers in the members of an object. -/
def memberDoubles : List (String × Value) → List Double
  | [] => []
  | (_, v) :: rest => v.doubles ++ memberDoubles rest
end

theorem mem_memberDoubles {members : List (String × Value)} {d : Double} :
    d ∈ memberDoubles members ↔ ∃ m ∈ members, d ∈ m.2.doubles := by
  induction members with
  | nil => simp [memberDoubles]
  | cons m rest ih =>
      simp only [memberDoubles, List.mem_append, ih, List.mem_cons, exists_eq_or_imp]

/-! ### Objects in order -/

theorem insertIn_of_forall_lt {key : String} {value : Value} {l : List (String × Value)}
    (h : ∀ e ∈ l, e.1 < key) : Dict.insertIn key value l = l ++ [(key, value)] := by
  induction l with
  | nil => rfl
  | cons e l ih =>
      have hlt : e.1 < key := h e List.mem_cons_self
      have hne : key ≠ e.1 := fun heq => String.lt_irrefl _ (heq ▸ hlt)
      have hge : ¬ key < e.1 := fun hgt => String.lt_irrefl _ (String.lt_trans hlt hgt)
      rw [Dict.insertIn, if_neg hge, if_neg hne,
        ih (fun e he => h e (List.mem_cons_of_mem _ he))]
      rfl

theorem foldl_insertIn (l before : List (String × Value))
    (h : (before ++ l).Pairwise (fun a b => a.1 < b.1)) :
    l.foldl (fun acc m => Dict.insertIn m.1 m.2 acc) before = before ++ l := by
  induction l generalizing before with
  | nil => rw [List.foldl_nil, List.append_nil]
  | cons m l ih =>
      have hbefore : ∀ e ∈ before, e.1 < m.1 := fun e he =>
        (List.pairwise_append.1 h).2.2 e he m List.mem_cons_self
      have hassoc : before ++ m :: l = before ++ [m] ++ l := by
        rw [List.append_assoc]
        rfl
      rw [List.foldl_cons, insertIn_of_forall_lt hbefore, hassoc]
      exact ih _ (hassoc ▸ h)

/-- Members in order are the members of their object. -/
theorem Value.ofMembers_of_sorted {members : List (String × Value)}
    (h : members.Pairwise (fun a b => a.1 < b.1)) : Value.ofMembers members = .object members :=
  congrArg Value.object (foldl_insertIn members [] h)

theorem sorted_foldl_insertIn (l before : List (String × Value))
    (h : before.Pairwise (fun a b => a.1 < b.1)) :
    (l.foldl (fun acc m => Dict.insertIn m.1 m.2 acc) before).Pairwise
      (fun a b => a.1 < b.1) := by
  induction l generalizing before with
  | nil => exact h
  | cons m l ih => exact ih _ (Dict.sorted_insertIn h)

theorem mem_foldl_insertIn {l before : List (String × Value)} {e : String × Value}
    (h : e ∈ l.foldl (fun acc m => Dict.insertIn m.1 m.2 acc) before) : e ∈ l ∨ e ∈ before := by
  induction l generalizing before with
  | nil => exact Or.inr h
  | cons m l ih =>
      rcases ih h with hl | hbefore
      · exact Or.inl (List.mem_cons_of_mem _ hl)
      · rcases Dict.mem_insertIn hbefore with rfl | hbefore
        · exact Or.inl List.mem_cons_self
        · exact Or.inr hbefore

/-- An object fits if its members do, in whatever order they are given. -/
theorem Value.fits_ofMembers {depth : Nat} {members : List (String × Value)} (hdepth : 0 < depth)
    (h : ∀ m ∈ members, m.2.Fits (depth - 1)) : (Value.ofMembers members).Fits depth := by
  refine ⟨hdepth, sorted_foldl_insertIn _ _ List.Pairwise.nil, fitsMembers_iff.2 (fun m hm => ?_)⟩
  rcases mem_foldl_insertIn hm with hm | hm
  · exact h m hm
  · cases hm

theorem Value.doubles_ofMembers {members : List (String × Value)}
    (h : ∀ m ∈ members, m.2.doubles = []) : (Value.ofMembers members).doubles = [] := by
  refine List.eq_nil_iff_forall_not_mem.2 (fun d hd => ?_)
  obtain ⟨m, hm, hd⟩ := mem_memberDoubles.1 hd
  rcases mem_foldl_insertIn hm with hm | hm
  · rw [h m hm] at hd
    cases hd
  · cases hm

/-! ### Documents -/

namespace Document

mutual
/-- The document of a value reads as the value. -/
theorem toValue_ofValue {depth : Nat} : ∀ {v : Value}, v.Fits depth → (ofValue v).toValue = .ok v
  | .null, _ => rfl
  | .bool _, _ => rfl
  | .number _, _ => rfl
  | .string _, _ => rfl
  | .array items, h => by
      rw [ofValue, toValue, toItems_ofItems h.2]
      rfl
  | .object members, h => by
      rw [ofValue, toValue, toMembers_ofMembers h.2.2]
      exact congrArg Except.ok (Value.ofMembers_of_sorted h.2.1)

theorem toItems_ofItems {depth : Nat} :
    ∀ {items : List Value}, FitsItems depth items → toItems (ofItems items) = .ok items
  | [], _ => rfl
  | v :: rest, h => by
      rw [ofItems, toItems, toValue_ofValue h.1, toItems_ofItems h.2]
      rfl

theorem toMembers_ofMembers {depth : Nat} : ∀ {members : List (String × Value)},
    FitsMembers depth members → toMembers (ofMembers members) = .ok members
  | [], _ => rfl
  | (k, v) :: rest, h => by
      rw [ofMembers, toMembers, toValue_ofValue h.1, toMembers_ofMembers h.2]
      rfl
end

end Document
end Fleet.Json

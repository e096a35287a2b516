import Fleet.Json.Reader
import Fleet.Proofs.Json.Value
import Fleet.Proofs.Result

/-! # What is read fits

Every value that a text writes is nested at most `depthLimit` deep and has its members in order
(`fits_of_parse`).  The reader refuses a container at the last level, so each level it enters counts
one: the document of a text is `Document.Bounded`, and the parts of a bounded document that are not
refused are bounded one level below (`bounded_readText`). -/

namespace Fleet.Json

/-- A document whose value, if it has one, fits. -/
def Document.Shallow (depth : Nat) (d : Document) : Prop := ∀ v, d.toValue = .ok v → v.Fits depth

namespace Document

variable {depth : Nat}

theorem shallow_broken (start : Start) (f : Fault) : Shallow depth (.broken start f) := by
  intro v h
  cases h

theorem shallow_null : Shallow depth .null := by
  intro v h
  cases h
  trivial

theorem shallow_bool (b : Bool) : Shallow depth (.bool b) := by
  intro v h
  cases h
  trivial

theorem shallow_number (n : Except SyntaxError Number) : Shallow depth (.number n) := by
  intro v h
  obtain ⟨n, -, rfl⟩ := Result.exists_of_map h
  trivial

theorem shallow_string (s : Except SyntaxError String) : Shallow depth (.string s) := by
  intro v h
  obtain ⟨s, -, rfl⟩ := Result.exists_of_map h
  trivial

theorem fits_of_toItems {items : List Document} {values : List Value}
    (hitems : ∀ d ∈ items, Shallow depth d) (h : toItems items = .ok values) :
    FitsItems depth values := by
  induction items generalizing values with
  | nil =>
      cases h
      trivial
  | cons d rest ih =>
      rw [toItems] at h
      obtain ⟨v, hv, h⟩ := Result.exists_of_bind h
      obtain ⟨vs, hvs, h⟩ := Result.exists_of_bind h
      cases h
      exact ⟨hitems d List.mem_cons_self v hv,
        ih (fun d hd => hitems d (List.mem_cons_of_mem _ hd)) hvs⟩

theorem fits_of_toMembers {members : List (Except SyntaxError String × Document)}
    {values : List (String × Value)} (hmembers : ∀ m ∈ members, Shallow depth m.2)
    (h : toMembers members = .ok values) : ∀ m ∈ values, m.2.Fits depth := by
  induction members generalizing values with
  | nil =>
      cases h
      intro m hm
      cases hm
  | cons m rest ih =>
      rw [toMembers] at h
      obtain ⟨k, -, h⟩ := Result.exists_of_bind h
      obtain ⟨v, hv, h⟩ := Result.exists_of_bind h
      obtain ⟨vs, hvs, h⟩ := Result.exists_of_bind h
      cases h
      exact List.forall_mem_cons.2 ⟨hmembers m List.mem_cons_self v hv,
        ih (fun d hd => hmembers d (List.mem_cons_of_mem _ hd)) hvs⟩

theorem shallow_array {items : List Document} (ending : Option Fault)
    (h : ∀ d ∈ items, Shallow depth d) : Shallow (depth + 1) (.array false items ending) := by
  intro v hv
  rw [toValue] at hv
  obtain ⟨values, hvalues, hv⟩ := Result.exists_of_bind hv
  obtain ⟨u, -, hv⟩ := Result.exists_of_bind hv
  cases hv
  exact ⟨Nat.succ_pos depth, fits_of_toItems h hvalues⟩

theorem shallow_object {members : List (Except SyntaxError String × Document)}
    (ending : Option Fault) (h : ∀ m ∈ members, Shallow depth m.2) :
    Shallow (depth + 1) (.object false members ending) := by
  intro v hv
  rw [toValue] at hv
  obtain ⟨values, hvalues, hv⟩ := Result.exists_of_bind hv
  obtain ⟨u, -, hv⟩ := Result.exists_of_bind hv
  cases hv
  exact Value.fits_ofMembers (Nat.succ_pos depth) (fits_of_toMembers h hvalues)

/-- A document whose containers are nested at most so deep, those that are refused for their depth
left aside. -/
inductive Bounded : Nat → Document → Prop
  | null {depth : Nat} : Bounded depth .null
  | bool {depth : Nat} (b : Bool) : Bounded depth (.bool b)
  | number {depth : Nat} (n : Except SyntaxError Number) : Bounded depth (.number n)
  | string {depth : Nat} (s : Except SyntaxError String) : Bounded depth (.string s)
  | broken {depth : Nat} (start : Start) (f : Fault) : Bounded depth (.broken start f)
  | arrayTooDeep {depth : Nat} (items : List Document) (ending : Option Fault) :
      Bounded depth (.array true items ending)
  | array {depth : Nat} {items : List Document} (ending : Option Fault)
      (h : ∀ d ∈ items, Bounded depth d) : Bounded (depth + 1) (.array false items ending)
  | objectTooDeep {depth : Nat} (members : List (Except SyntaxError String × Document))
      (ending : Option Fault) : Bounded depth (.object true members ending)
  | object {depth : Nat} {members : List (Except SyntaxError String × Document)}
      (ending : Option Fault) (h : ∀ m ∈ members, Bounded depth m.2) :
      Bounded (depth + 1) (.object false members ending)

theorem Bounded.shallow {d : Document} (h : d.Bounded depth) : d.Shallow depth := by
  induction h with
  | null => exact shallow_null
  | bool b => exact shallow_bool b
  | number n => exact shallow_number n
  | string s => exact shallow_string s
  | broken start f => exact shallow_broken start f
  | array ending h ih => exact shallow_array ending ih
  | object ending h ih => exact shallow_object ending ih
  | arrayTooDeep items ending | objectTooDeep members ending =>
      intro v hv
      cases hv

/-- An array that is refused at the last level. -/
theorem bounded_array {items : List Document} (ending : Option Fault)
    (h : ∀ d ∈ items, Bounded (depth - 1) d) : Bounded depth (.array (depth == 0) items ending) := by
  cases depth with
  | zero => exact .arrayTooDeep items ending
  | succ depth => exact .array ending h

/-- An object that is refused at the last level. -/
theorem bounded_object {members : List (Except SyntaxError String × Document)}
    (ending : Option Fault) (h : ∀ m ∈ members, Bounded (depth - 1) m.2) :
    Bounded depth (.object (depth == 0) members ending) := by
  cases depth with
  | zero => exact .objectTooDeep members ending
  | succ depth => exact .object ending h

end Document

open Document

variable {depth : Nat}

theorem bounded_readWord {value : Document} (h : Bounded depth value) (start : Start)
    (cs : List Char) (s : Source) : Bounded depth (readWord value start cs s).1 := by
  induction cs generalizing s with
  | nil => exact h
  | cons c cs ih =>
      cases s with
      | nil => exact .broken _ _
      | cons u s =>
          rw [readWord]
          split
          · exact ih s
          · exact .broken _ _

theorem bounded_readNumber (negative : Bool) (s : Source) :
    Bounded depth (readNumber negative s).1 := by
  unfold readNumber
  split
  · exact .number _
  · exact .broken _ _

/-- What the readers of values, items and members find with some fuel is bounded. -/
structure ReadsBounded (fuel : Nat) : Prop where
  value : ∀ depth s, Bounded depth (readValue fuel depth s).1
  items : ∀ depth first s, ∀ d ∈ (readItems fuel depth first s).1, Bounded depth d
  item : ∀ depth s, ∀ d ∈ (readItem fuel depth s).1, Bounded depth d
  members : ∀ depth first s, ∀ m ∈ (readMembers fuel depth first s).1, Bounded depth m.2
  member : ∀ depth s, ∀ m ∈ (readMember fuel depth s).1, Bounded depth m.2

theorem readsBounded_zero : ReadsBounded 0 := by
  refine ⟨?_, ?_, ?_, ?_, ?_⟩
  · intro depth s
    rw [readValue]
    exact .broken _ _
  · intro depth first s d hd
    rw [readItems] at hd
    cases hd
  · intro depth s d hd
    rw [readItem] at hd
    cases hd
  · intro depth first s m hm
    rw [readMembers] at hm
    cases hm
  · intro depth s m hm
    rw [readMember] at hm
    cases hm

namespace ReadsBounded

variable {fuel : Nat}

theorem readValue_succ (h : ReadsBounded fuel) (depth : Nat) (s : Source) :
    Bounded depth (readValue (fuel + 1) depth s).1 := by
  rw [readValue]
  split
  · exact .broken _ _
  · exact bounded_readWord .null _ _ _
  · exact bounded_readWord (.bool true) _ _ _
  · exact bounded_readWord (.bool false) _ _ _
  · exact bounded_readNumber _ _
  · split
    · exact .string _
    · exact .broken _ _
  · next rest _ =>
      have hitems := h.items (depth - 1) true rest
      dsimp only
      split
      · exact bounded_array none hitems
      · exact bounded_array _ hitems
  · next rest _ =>
      have hmembers := h.members (depth - 1) true rest
      dsimp only
      split
      · exact bounded_object none hmembers
      · exact bounded_object _ hmembers
  · split
    · exact bounded_readNumber _ _
    · exact .broken _ _

theorem readItems_succ (h : ReadsBounded fuel) (depth : Nat) (first : Bool) (s : Source) :
    ∀ d ∈ (readItems (fuel + 1) depth first s).1, Bounded depth d := by
  intro d hd
  rw [readItems] at hd
  split at hd
  · cases hd
  · cases hd
  · split at hd
    · exact h.item _ _ d hd
    · split at hd
      · split at hd
        · cases hd
        · cases hd
        · exact h.item _ _ d hd
      · cases hd

theorem readItem_succ (h : ReadsBounded fuel) (depth : Nat) (s : Source) :
    ∀ d ∈ (readItem (fuel + 1) depth s).1, Bounded depth d := by
  intro d hd
  have hvalue := h.value depth s
  rw [readItem] at hd
  split at hd
  · next heq =>
      rw [heq] at hvalue
      rcases List.mem_singleton.1 hd with rfl
      exact hvalue
  · next rest heq =>
      rw [heq] at hvalue
      rcases List.mem_cons.1 hd with rfl | hd
      · exact hvalue
      · exact h.items depth false rest d hd

theorem readMembers_succ (h : ReadsBounded fuel) (depth : Nat) (first : Bool) (s : Source) :
    ∀ m ∈ (readMembers (fuel + 1) depth first s).1, Bounded depth m.2 := by
  intro m hm
  rw [readMembers] at hm
  split at hm
  · cases hm
  · cases hm
  · split at hm
    · exact h.member _ _ m hm
    · split at hm
      · split at hm
        · cases hm
        · cases hm
        · exact h.member _ _ m hm
      · cases hm

theorem readMember_succ (h : ReadsBounded fuel) (depth : Nat) (s : Source) :
    ∀ m ∈ (readMember (fuel + 1) depth s).1, Bounded depth m.2 := by
  intro m hm
  unfold readMember at hm
  split at hm
  · split at hm
    · cases hm
    · split at hm
      · next rest _ =>
          have hvalue := h.value depth rest
          split at hm
          · next heq =>
              rw [heq] at hvalue
              rcases List.mem_singleton.1 hm with rfl
              exact hvalue
          · next rest' heq =>
              rw [heq] at hvalue
              rcases List.mem_cons.1 hm with rfl | hm
              · exact hvalue
              · exact h.members depth false rest' m hm
      · rcases List.mem_singleton.1 hm with rfl
        exact .broken _ _
      · rcases List.mem_singleton.1 hm with rfl
        exact .broken _ _
  · cases hm

theorem succ (h : ReadsBounded fuel) : ReadsBounded (fuel + 1) :=
  ⟨h.readValue_succ, h.readItems_succ, h.readItem_succ, h.readMembers_succ, h.readMember_succ⟩

end ReadsBounded

theorem readsBounded (fuel : Nat) : ReadsBounded fuel := by
  induction fuel with
  | zero => exact readsBounded_zero
  | succ fuel ih => exact ih.succ

theorem bounded_readText (s : Source) : Bounded depthLimit (readText s).document := by
  have hvalue := (readsBounded (3 * s.length + 3)).value depthLimit s
  unfold readText
  split
  · next heq =>
      rw [heq] at hvalue
      exact hvalue
  · next heq =>
      rw [heq] at hvalue
      exact hvalue

/-- Every value that a text writes fits. -/
theorem fits_of_parse {s : Source} {v : Value} (h : parse s = .ok v) : v.Fits depthLimit := by
  unfold parse at h
  obtain ⟨w, hw, h⟩ := Result.exists_of_bind h
  split at h
  · cases h
  · cases h
    exact (bounded_readText s).shallow _ hw

end Fleet.Json

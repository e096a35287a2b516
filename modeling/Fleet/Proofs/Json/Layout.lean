import Fleet.Json.Layout
import Fleet.Proofs.Json.Faultless
import Fleet.Proofs.Json.Reading

/-! # What a record holds of its object

`Layout.decode` takes the members of an object one after the other, sets those of the parts aside and
reads them later, and takes a list as well.  `Layout.holds_of_decode` says what comes of all this:
every field of the record holds what the member under its key says, or its default if there is no
such member.

Under the key of a field stands, in the object that a record is written as, what is written for this
field (`Layout.get?_members`); it is nested no deeper than the fields are and holds no binary64 number if
they hold none (`Layout.fitsIn_codec`). -/

namespace Fleet.Json

/-! ### Values as documents -/

namespace Document

mutual
/-- There is nothing to object to in the document of a value that is passed over. -/
theorem skip_ofValue : ∀ v : Value, (ofValue v).skip = .ok ()
  | .null => rfl
  | .bool _ => rfl
  | .number _ => rfl
  | .string _ => rfl
  | .array items => by
      rw [ofValue, skip, skipItems_ofItems items]
      rfl
  | .object members => by
      rw [ofValue, skip, skipMembers_ofMembers members]
      rfl

theorem skipItems_ofItems : ∀ items : List Value, skipItems (ofItems items) = .ok ()
  | [] => rfl
  | v :: rest => by
      rw [ofItems, skipItems, skip_ofValue v, skipItems_ofItems rest]
      rfl

theorem skipMembers_ofMembers : ∀ members : List (String × Value),
    skipMembers (ofMembers members) = .ok ()
  | [] => rfl
  | (k, v) :: rest => by
      rw [ofMembers, skipMembers, skip_ofValue v, skipMembers_ofMembers rest]
      rfl
end

end Document

/-! ### Fields -/

variable {ρ σ α : Type}

/-- What a field of a record holds: what its member says, or, if it has none, what it held
before. -/
def Field.Holds (f : Field ρ) (before : ρ) (member : Option Value) (r : ρ) : Prop :=
  match member with
  | some v => ∃ origin, f.decode origin (.ofValue v) = .ok (f.get r)
  | none => f.get r = f.get before

theorem Field.Holds.congr {f : Field ρ} {before before' r r' : ρ} {member : Option Value}
    (h : f.Holds before member r) (hbefore : f.get before = f.get before')
    (hr : f.get r' = f.get r) : f.Holds before' member r' := by
  unfold Holds at h ⊢
  rw [hr, ← hbefore]
  exact h

namespace Layout

/-- All fields of a record, those of its parts included. -/
def allFields (l : Layout ρ) : List (Field ρ) := l.fields ++ l.parts.flatten

theorem parts_of_isPlain {l : Layout ρ} (h : l.isPlain = true) : l.parts = [] := by
  unfold isPlain at h
  rw [Bool.and_eq_true] at h
  exact List.isEmpty_iff.1 h.1

theorem allFields_of_isPlain {l : Layout ρ} (h : l.isPlain = true) : l.allFields = l.fields := by
  unfold allFields
  rw [parts_of_isPlain h, List.flatten_nil, List.append_nil]

/-- The fields of a record do not get into each other's way. -/
structure LawfulFields (fields : List (Field ρ)) : Prop where
  distinct : (fields.map (·.key)).Nodup
  get_set : ∀ f ∈ fields, ∀ a r, f.get (f.set a r) = a
  get_set_of_ne : ∀ f ∈ fields, ∀ g ∈ fields, f.key ≠ g.key → ∀ a r, f.get (g.set a r) = f.get r

theorem key_of_field? {fields : List (Field ρ)} {key : String} {f : Field ρ}
    (h : field? fields key = some f) : f ∈ fields ∧ f.key = key :=
  ⟨List.mem_of_find?_eq_some h, by simpa using List.find?_some h⟩

theorem field?_eq_none_iff {fields : List (Field ρ)} {key : String} :
    field? fields key = none ↔ ∀ f ∈ fields, f.key ≠ key := by
  unfold field?
  simp

theorem field?_within {get : ρ → σ} {set : σ → ρ → ρ} (fields : List (Field σ)) (key : String) :
    field? (fields.map (·.within get set)) key = (field? fields key).map (·.within get set) :=
  List.find?_map ..

theorem field?_key {fields : List (Field ρ)} (h : (fields.map (·.key)).Nodup) {f : Field ρ}
    (hf : f ∈ fields) : field? fields f.key = some f := by
  induction fields with
  | nil => cases hf
  | cons g fields ih =>
      rw [List.map_cons, List.nodup_cons] at h
      unfold field?
      rcases List.mem_cons.1 hf with rfl | hf
      · rw [List.find?_cons_of_pos (by simp)]
      · have hne : ¬ (g.key == f.key) = true := by
          intro heq
          exact h.1 (eq_of_beq heq ▸ List.mem_map_of_mem hf)
        rw [List.find?_cons_of_neg (p := fun g : Field ρ => g.key == f.key) hne]
        exact ih h.2 hf

theorem LawfulFields.eq_of_key {fields : List (Field ρ)} (h : LawfulFields fields) {f g : Field ρ}
    (hf : f ∈ fields) (hg : g ∈ fields) (hkey : f.key = g.key) : f = g := by
  have := field?_key h.distinct hf
  rw [hkey, field?_key h.distinct hg] at this
  exact (Option.some.inj this).symm

/-! ### Members of values -/

/-- Decodes the members of an object that are fields and passes over the others. -/
def readFields (loose : Bool) (fields : List (Field ρ)) (origin : Origin) (p : Progress ρ) :
    List (String × Value) → Except DecodeError (Progress ρ)
  | [] => .ok p
  | (k, v) :: rest =>
    match field? fields k with
    | some f => do
      let p ← readField loose f origin (.ofValue v) p
      readFields loose fields origin p rest
    | none => readFields loose fields origin p rest

/-- The members that are no fields of the record itself, as documents. -/
def setAside (l : Layout ρ) (members : List (String × Value)) : List (String × Document) :=
  (members.filter (fun m => (field? l.fields m.1).isNone)).map (fun m => (m.1, .ofValue m.2))

theorem readMembers_ofMembers (l : Layout ρ) (origin : Origin) (p : Progress ρ)
    (members : List (String × Value)) :
    l.readMembers origin p (Document.ofMembers members) =
      (readFields l.loose l.fields origin p members).map
        (fun p => (p, if l.isPlain then [] else l.setAside members)) := by
  unfold setAside
  induction members generalizing p with
  | nil =>
      rw [Document.ofMembers, readMembers, readFields]
      split <;> rfl
  | cons m rest ih =>
      obtain ⟨k, v⟩ := m
      rw [Document.ofMembers, readMembers, readFields]
      change (match field? l.fields k with
        | some f => _
        | none => _) = _
      cases hf : field? l.fields k with
      | some f =>
          dsimp only
          rw [List.filter_cons_of_neg (by simp [hf])]
          cases readField l.loose f origin (.ofValue v) p with
          | error e => rfl
          | ok p' => exact ih p'
      | none =>
          dsimp only
          rw [List.filter_cons_of_pos (by simp [hf])]
          split
          · next hplain =>
              rw [Document.skip_ofValue]
              have ih := ih p
              rw [if_pos hplain] at ih
              exact ih
          · next hplain =>
              rw [Document.toValue_ofValue_eq]
              have ih := ih p
              rw [if_neg hplain] at ih
              change (l.readMembers origin p (Document.ofMembers rest) >>= fun x => _) = _
              rw [ih]
              cases readFields l.loose l.fields origin p rest <;> rfl

theorem readAside_map (fields : List (Field ρ)) (p : Progress ρ)
    (members : List (String × Value)) :
    readAside fields p (members.map (fun m => (m.1, .ofValue m.2))) =
      readFields false fields .aside p members := by
  induction members generalizing p with
  | nil => rfl
  | cons m rest ih =>
      obtain ⟨k, v⟩ := m
      rw [List.map_cons, readAside, readFields]
      cases field? fields k with
      | none => exact ih p
      | some f => exact bind_congr (fun p' => ih p')

/-! ### What fields hold -/

theorem get_of_readField {fields : List (Field ρ)} (hl : LawfulFields fields) {loose : Bool}
    {f g : Field ρ} (hf : f ∈ fields) (hg : g ∈ fields) (hne : f.key ≠ g.key) {origin : Origin}
    {d : Document} {p p' : Progress ρ} (h : readField loose g origin d p = .ok p') :
    f.get p'.record = f.get p.record := by
  unfold readField at h
  split at h
  · cases h
  · obtain ⟨a, -, h⟩ := Result.exists_of_bind h
    cases h
    exact hl.get_set_of_ne f hf g hg hne a p.record

theorem decode_of_readField {fields : List (Field ρ)} (hl : LawfulFields fields) {loose : Bool}
    {f : Field ρ} (hf : f ∈ fields) {origin : Origin} {d : Document} {p p' : Progress ρ}
    (h : readField loose f origin d p = .ok p') : f.decode origin d = .ok (f.get p'.record) := by
  unfold readField at h
  split at h
  · cases h
  · obtain ⟨a, ha, h⟩ := Result.exists_of_bind h
    cases h
    rw [hl.get_set f hf]
    exact ha

/-- Fields that are not read stay. -/
theorem get_of_readFields {all fields : List (Field ρ)} (hl : LawfulFields all)
    (hsub : ∀ g ∈ fields, g ∈ all) {f : Field ρ} (hf : f ∈ all) (hnot : ∀ g ∈ fields, f.key ≠ g.key)
    {loose : Bool} {origin : Origin} {members : List (String × Value)} {p p' : Progress ρ}
    (h : readFields loose fields origin p members = .ok p') :
    f.get p'.record = f.get p.record := by
  induction members generalizing p with
  | nil =>
      cases h
      rfl
  | cons m rest ih =>
      obtain ⟨k, v⟩ := m
      rw [readFields] at h
      cases hk : field? fields k with
      | none =>
          rw [hk] at h
          exact ih h
      | some g =>
          rw [hk] at h
          obtain ⟨q, hq, h⟩ := Result.exists_of_bind h
          have hg := (key_of_field? hk).1
          exact (ih h).trans (get_of_readField hl hf (hsub g hg) (hnot g hg) hq)

theorem holds_of_readFields {all fields : List (Field ρ)} (hl : LawfulFields all)
    (hsub : ∀ g ∈ fields, g ∈ all) {f : Field ρ} (hf : f ∈ fields) {loose : Bool} {origin : Origin}
    {members : List (String × Value)} {p p' : Progress ρ}
    (h : readFields loose fields origin p members = .ok p') :
    f.Holds p.record ((Dict.ofList members).get? f.key) p'.record := by
  induction members generalizing p with
  | nil =>
      cases h
      exact rfl
  | cons m rest ih =>
      obtain ⟨k, v⟩ := m
      rw [readFields] at h
      rw [Dict.get?_ofList_cons]
      cases hk : field? fields k with
      | none =>
          rw [hk] at h
          rw [if_neg (Ne.symm (field?_eq_none_iff.1 hk f hf)), Option.or_none]
          exact ih h
      | some g =>
          rw [hk] at h
          obtain ⟨q, hq, h⟩ := Result.exists_of_bind h
          obtain ⟨hg, rfl⟩ := key_of_field? hk
          have ih := ih h
          by_cases hkey : g.key = f.key
          · have := hl.eq_of_key (hsub g hg) (hsub f hf) hkey
            subst this
            rw [if_pos rfl]
            cases hrest : (Dict.ofList rest).get? g.key with
            | none =>
                rw [hrest] at ih
                refine ⟨origin, ?_⟩
                rw [decode_of_readField hl (hsub g hg) hq]
                exact congrArg Except.ok ih.symm
            | some w =>
                rw [hrest] at ih
                exact ih
          · rw [if_neg hkey, Option.or_none]
            exact ih.congr (get_of_readField hl (hsub f hf) (hsub g hg) (Ne.symm hkey) hq) rfl

/-! ### Parts -/

/-- Fields that belong to no part stay while the parts are read. -/
theorem get_of_readParts {all : List (Field ρ)} (hl : LawfulFields all)
    {parts : List (List (Field ρ))} (hsub : ∀ g ∈ parts.flatten, g ∈ all) {f : Field ρ}
    (hf : f ∈ all) (hnot : ∀ g ∈ parts.flatten, f.key ≠ g.key)
    {members : List (String × Value)} {record r : ρ}
    (h : readParts record (members.map (fun m => (m.1, .ofValue m.2))) parts = .ok r) :
    f.get r = f.get record := by
  induction parts generalizing record with
  | nil =>
      cases h
      rfl
  | cons fields rest ih =>
      rw [List.flatten_cons] at hsub hnot
      rw [readParts, readAside_map] at h
      obtain ⟨p, hp, h⟩ := Result.exists_of_bind h
      obtain ⟨-, -, h⟩ := Result.exists_of_bind h
      rw [ih (fun g hg => hsub g (List.mem_append_right _ hg))
        (fun g hg => hnot g (List.mem_append_right _ hg)) h]
      exact get_of_readFields hl (fun g hg => hsub g (List.mem_append_left _ hg)) hf
        (fun g hg => hnot g (List.mem_append_left _ hg)) hp

theorem holds_of_readParts {all : List (Field ρ)} (hl : LawfulFields all)
    {parts : List (List (Field ρ))} (hsub : ∀ g ∈ parts.flatten, g ∈ all)
    (hdistinct : (parts.flatten.map (·.key)).Nodup) {f : Field ρ} (hf : f ∈ parts.flatten)
    {members : List (String × Value)} {record r : ρ}
    (h : readParts record (members.map (fun m => (m.1, .ofValue m.2))) parts = .ok r) :
    f.Holds record ((Dict.ofList members).get? f.key) r := by
  induction parts generalizing record with
  | nil => cases hf
  | cons fields rest ih =>
      rw [List.flatten_cons] at hsub hf hdistinct
      rw [List.map_append, List.nodup_append] at hdistinct
      have hall : ∀ g ∈ fields, g ∈ all := fun g hg => hsub g (List.mem_append_left _ hg)
      have hrest : ∀ g ∈ rest.flatten, g ∈ all := fun g hg => hsub g (List.mem_append_right _ hg)
      have hne : ∀ g ∈ fields, ∀ g' ∈ rest.flatten, g.key ≠ g'.key := fun g hg g' hg' =>
        hdistinct.2.2 g.key (List.mem_map_of_mem hg) g'.key (List.mem_map_of_mem hg')
      rw [readParts, readAside_map] at h
      obtain ⟨p, hp, h⟩ := Result.exists_of_bind h
      obtain ⟨-, -, h⟩ := Result.exists_of_bind h
      rcases List.mem_append.1 hf with hf | hf
      · exact (holds_of_readFields hl hall hf hp).congr rfl
          (get_of_readParts hl hrest (hall f hf) (hne f hf) h)
      · exact (ih hrest hdistinct.2.1 hf h).congr
          (get_of_readFields hl hall (hrest f hf) (fun g hg => Ne.symm (hne g hg f hf)) hp) rfl

/-! ### Objects and lists -/

theorem holds_of_readObject {l : Layout ρ} (hl : LawfulFields l.allFields)
    (hremainder : l.remainder = none) {f : Field ρ} (hf : f ∈ l.allFields) {origin : Origin}
    {members : List (String × Value)} {r : ρ}
    (h : l.readObject origin (Document.ofMembers members) none = .ok r) :
    f.Holds l.blank ((Dict.ofList members).get? f.key) r := by
  have hown : ∀ g ∈ l.fields, g ∈ l.allFields := fun g hg => List.mem_append_left _ hg
  have hparts : ∀ g ∈ l.parts.flatten, g ∈ l.allFields := fun g hg => List.mem_append_right _ hg
  have hdistinct := hl.distinct
  unfold allFields at hdistinct
  rw [List.map_append, List.nodup_append] at hdistinct
  have hne : ∀ g ∈ l.fields, ∀ g' ∈ l.parts.flatten, g.key ≠ g'.key := fun g hg g' hg' =>
    hdistinct.2.2 g.key (List.mem_map_of_mem hg) g'.key (List.mem_map_of_mem hg')
  unfold readObject at h
  rw [readMembers_ofMembers] at h
  obtain ⟨⟨p, aside⟩, hmembers, h⟩ := Result.exists_of_bind h
  obtain ⟨p', hp, heq⟩ := Result.exists_of_map hmembers
  obtain ⟨rfl, rfl⟩ := Prod.mk.inj heq
  obtain ⟨-, -, h⟩ := Result.exists_of_bind h
  obtain ⟨-, -, h⟩ := Result.exists_of_bind h
  obtain ⟨record, hrecord, h⟩ := Result.exists_of_bind h
  unfold readOthers at h
  rw [hremainder] at h
  cases h
  cases hplain : l.isPlain with
  | true =>
      rw [parts_of_isPlain hplain] at hrecord
      rw [allFields_of_isPlain hplain] at hf
      cases hrecord
      exact holds_of_readFields hl hown hf hp
  | false =>
      rw [hplain, if_neg (by decide)] at hrecord
      rcases List.mem_append.1 hf with hf | hf
      · exact (holds_of_readFields hl hown hf hp).congr rfl
          (get_of_readParts hl hparts (hown f hf) (hne f hf) hrecord)
      · have hkept : ∀ m ∈ members, m.1 = f.key → (field? l.fields m.1).isNone = true := by
          intro m _ hm
          rw [Option.isNone_iff_eq_none, field?_eq_none_iff]
          exact fun g hg => hm ▸ hne g hg f hf
        rw [← Dict.get?_ofList_filter hkept]
        exact (holds_of_readParts hl hparts hdistinct.2.1 hf hrecord).congr
          (get_of_readFields hl hown (hparts f hf) (fun g hg => Ne.symm (hne g hg f hf)) hp) rfl

/-- A list that has ended leaves the next field as it is. -/
theorem readPlaces_of_cons_nil {l : Layout ρ} {g : Field ρ} {fields : List (Field ρ)}
    {origin : Origin} {ending : Option Fault} {place : Nat} {record : ρ}
    {read : ρ × List Document}
    (h : l.readPlaces origin ending record place (g :: fields) [] = .ok read) :
    l.readPlaces origin ending record (place + 1) fields [] = .ok read := by
  rw [readPlaces] at h
  obtain ⟨-, -, h⟩ := Result.exists_of_bind h
  split at h
  · cases h
  · exact h

/-- Fields whose place is not read stay. -/
theorem get_of_readPlaces {l : Layout ρ} {all fields : List (Field ρ)} (hl : LawfulFields all)
    (hsub : ∀ g ∈ fields, g ∈ all) {f : Field ρ} (hf : f ∈ all) (hnot : ∀ g ∈ fields, f.key ≠ g.key)
    {origin : Origin} {ending : Option Fault} {items left : List Document} {place : Nat}
    {record r : ρ}
    (h : l.readPlaces origin ending record place fields items = .ok (r, left)) :
    f.get r = f.get record := by
  induction fields generalizing items place record with
  | nil =>
      cases h
      rfl
  | cons g fields ih =>
      have ih := @ih (fun g hg => hsub g (List.mem_cons_of_mem _ hg))
        (fun g hg => hnot g (List.mem_cons_of_mem _ hg))
      cases items with
      | nil => exact ih (readPlaces_of_cons_nil h)
      | cons d items =>
          rw [readPlaces] at h
          obtain ⟨a, -, h⟩ := Result.exists_of_bind h
          rw [ih h]
          exact hl.get_set_of_ne f hf g (hsub g List.mem_cons_self) (hnot g List.mem_cons_self) a
            record

theorem holds_of_readPlaces {l : Layout ρ} {all fields : List (Field ρ)} (hl : LawfulFields all)
    (hsub : ∀ g ∈ fields, g ∈ all) (hdistinct : (fields.map (·.key)).Nodup) {f : Field ρ}
    (hf : f ∈ fields) {origin : Origin} {ending : Option Fault} {items : List Value}
    {left : List Document} {place : Nat} {record r : ρ}
    (h : l.readPlaces origin ending record place fields (Document.ofItems items) = .ok (r, left)) :
    f.Holds record ((Dict.ofList ((fields.map (·.key)).zip items)).get? f.key) r := by
  induction fields generalizing items place record with
  | nil => cases hf
  | cons g fields ih =>
      rw [List.map_cons, List.nodup_cons] at hdistinct
      have hg : g ∈ all := hsub g List.mem_cons_self
      have hrest : ∀ g ∈ fields, g ∈ all := fun g hg => hsub g (List.mem_cons_of_mem _ hg)
      have hne : ∀ g' ∈ fields, g.key ≠ g'.key := fun g' hg' heq =>
        hdistinct.1 (heq ▸ List.mem_map_of_mem hg')
      cases items with
      | nil =>
          have hnext := readPlaces_of_cons_nil h
          rcases List.mem_cons.1 hf with rfl | hf
          · exact get_of_readPlaces hl hrest hg hne hnext
          · have := @ih hrest hdistinct.2 hf [] (place + 1) record hnext
            rw [List.zip_nil_right] at this ⊢
            exact this
      | cons v items =>
          rw [Document.ofItems, readPlaces] at h
          obtain ⟨a, ha, h⟩ := Result.exists_of_bind h
          rw [List.map_cons, List.zip_cons_cons, Dict.get?_ofList_cons]
          rcases List.mem_cons.1 hf with rfl | hf
          · have hnone : (Dict.ofList ((fields.map (·.key)).zip items)).get? f.key = none := by
              refine Dict.get?_ofList_eq_none (fun e he => ?_)
              obtain ⟨g', hg', hkey⟩ := List.mem_map.1 (List.of_mem_zip he).1
              exact hkey ▸ Ne.symm (hne g' hg')
            rw [hnone, if_pos rfl]
            refine ⟨origin, ?_⟩
            rw [get_of_readPlaces hl hrest hg hne h, hl.get_set f hg]
            exact ha
          · rw [if_neg (hne f hf), Option.or_none]
            exact (ih hrest hdistinct.2 hf h).congr
              (hl.get_set_of_ne f (hrest f hf) g hg (Ne.symm (hne f hf)) a record) rfl

/-- The members of a record with fields under `keys`: those of an object, or the items of a list in
the order of the fields. -/
def membersOf (keys : List String) : Value → Dict Value
  | .object members => .ofList members
  | .array items => .ofList (keys.zip items)
  | _ => .empty

/-- A record that is read holds what the value says. -/
theorem holds_of_decode {l : Layout ρ} (hl : LawfulFields l.allFields)
    (hremainder : l.remainder = none) {f : Field ρ} (hf : f ∈ l.allFields) {origin : Origin}
    {v : Value} {r : ρ} (h : l.decode origin (.ofValue v) = .ok r) :
    f.Holds l.blank ((membersOf (l.allFields.map (·.key)) v).get? f.key) r := by
  have hmismatch : ∀ d, ¬ (mismatch l.expected d : Except DecodeError ρ) = .ok r := by
    intro d hd
    obtain ⟨found, -, hd⟩ := Result.exists_of_bind hd
    cases hd
  cases v with
  | object members => exact holds_of_readObject hl hremainder hf h
  | array items =>
      rw [Document.ofValue, decode] at h
      split at h
      · exact absurd h (hmismatch _)
      · next hplain =>
          obtain ⟨⟨record, left⟩, hplaces, h⟩ := Result.exists_of_bind h
          obtain ⟨-, -, h⟩ := Result.exists_of_bind h
          cases h
          have hall : l.allFields = l.fields := by
            refine allFields_of_isPlain ?_
            cases hl : l.isPlain with
            | true => rfl
            | false => simp [hl] at hplain
          have hdistinct := hl.distinct
          rw [hall] at hf hdistinct ⊢
          exact holds_of_readPlaces hl (fun g hg => hall ▸ hg) hdistinct hf hplaces
  | null => exact absurd h (hmismatch _)
  | bool b => exact absurd h (hmismatch _)
  | number n => exact absurd h (hmismatch _)
  | string s => exact absurd h (hmismatch _)

/-! ### Members that are kept -/

/-- A record without parts keeps all members set aside, if it has a place for them. -/
theorem readOthers_map {l : Layout ρ} {keep : Remainder ρ} (hremainder : l.remainder = some keep)
    (hparts : l.parts = []) {depth : Nat} {members : List (String × Value)}
    (hfits : ∀ m ∈ members, m.2.Fits depth) (record : ρ) :
    l.readOthers (members.map (fun m => (m.1, .ofValue m.2))) record =
      .ok (keep.set (.ofList members) record) := by
  have hothers : l.others (members.map (fun m => (m.1, .ofValue m.2))) =
      members.map (fun m => (m.1, .ofValue m.2)) := by
    unfold others
    rw [hparts]
    exact List.filter_eq_self.2 (fun _ _ => rfl)
  have hmembers : (members.map (fun m => (m.1, Document.ofValue m.2))).map
      (fun m => ((.ok m.1 : Except SyntaxError String), m.2)) = Document.ofMembers members := by
    rw [List.map_map, Document.ofMembers_eq_map]
    rfl
  unfold readOthers
  rw [hremainder]
  dsimp only
  rw [hothers, hmembers, Document.toMembers_ofMembers (fitsMembers_iff.2 hfits)]
  rfl

/-! ### What is written -/

theorem nodup_keys_members {fields : List (Field ρ)} (h : (fields.map (·.key)).Nodup) (r : ρ) :
    ((members fields r).map Prod.fst).Nodup := Dict.nodup_keys_filterMap h

/-- Under the key of a field stands what is written for it. -/
theorem get?_members {fields : List (Field ρ)} (h : (fields.map (·.key)).Nodup) {f : Field ρ}
    (hf : f ∈ fields) (r : ρ) :
    (Dict.ofList (members fields r)).get? f.key = f.encode (f.get r) := by
  rw [Dict.get?_ofList (nodup_keys_members h r)]
  exact Dict.lookupIn_filterMap (f := fun f : Field ρ => f.encode (f.get r)) h hf

end Layout

/-! ### Plain values -/

/-- The value is nested at most so deep, and no binary64 number is in it. -/
structure Value.FitsPlainly (v : Value) (depth : Nat) : Prop where
  fits : v.Fits depth
  plain : v.doubles = []

/-- Whatever is written fits plainly. -/
def Codec.FitsIn (c : Codec α) (depth : Nat) : Prop := ∀ a, (c.encode a).FitsPlainly depth

/-- What is written for a field fits plainly. -/
def Field.FitsIn (f : Field ρ) (depth : Nat) : Prop :=
  ∀ a v, f.encode a = some v → v.FitsPlainly depth

theorem Value.fits_ofDict {depth : Nat} {d : Dict Value} (h : ∀ e ∈ d.entries, e.2.Fits depth) :
    (Value.ofDict d).Fits (depth + 1) :=
  ⟨Nat.succ_pos depth, d.sorted, fitsMembers_iff.2 h⟩

theorem Value.fitsPlainly_string (s : String) (depth : Nat) : (Value.string s).FitsPlainly depth :=
  ⟨trivial, rfl⟩

theorem Value.fitsPlainly_ofMembers {depth : Nat} {members : List (String × Value)}
    (h : ∀ m ∈ members, m.2.FitsPlainly depth) : (Value.ofMembers members).FitsPlainly (depth + 1) :=
  ⟨Value.fits_ofMembers (Nat.succ_pos depth) (fun m hm => (h m hm).fits),
    Value.doubles_ofMembers (fun m hm => (h m hm).plain)⟩

theorem Value.fitsPlainly_ofDict {depth : Nat} {d : Dict Value}
    (h : ∀ e ∈ d.entries, e.2.FitsPlainly depth) : (Value.ofDict d).FitsPlainly (depth + 1) := by
  have hmembers : Value.ofMembers d.entries = .ofDict d := Value.ofMembers_of_sorted d.sorted
  rw [← hmembers]
  exact Value.fitsPlainly_ofMembers h

namespace Field

theorem fitsIn_textOrEmpty {key : String} {get : ρ → String} {set : String → ρ → ρ} {depth : Nat} :
    (textOrEmpty key get set).FitsIn depth := by
  intro a v hv
  change (if (a : String).isEmpty then none else some (Value.string a)) = some v at hv
  split at hv
  · cases hv
  · cases hv
    exact Value.fitsPlainly_string a depth

theorem fitsIn_within {f : Field σ} {get : ρ → σ} {set : σ → ρ → ρ} {depth : Nat}
    (h : f.FitsIn depth) : (f.within get set).FitsIn depth := h

theorem fitsIn_optional {key : String} {c : Codec α} {get : ρ → Option α}
    {set : Option α → ρ → ρ} {depth : Nat} (h : c.FitsIn depth) :
    (Field.optional key c get set).FitsIn depth := by
  intro a v hv
  obtain ⟨b, -, rfl⟩ := Option.map_eq_some_iff.1 hv
  exact h b

theorem fitsIn_dictOrEmpty {key : String} {c : Codec α} {get : ρ → Dict α}
    {set : Dict α → ρ → ρ} {depth : Nat} (h : c.FitsIn depth) :
    (dictOrEmpty key c get set).FitsIn (depth + 1) := by
  intro a v hv
  change (if (a : Dict α).isEmpty then none else some (Value.ofDict ((a : Dict α).map c.encode))) =
    some v at hv
  split at hv
  · cases hv
  · cases hv
    apply Value.fitsPlainly_ofDict
    intro e he
    obtain ⟨e', -, rfl⟩ := List.mem_map.1 he
    exact h e'.2

end Field

namespace Layout

theorem members_allFields (l : Layout ρ) (r : ρ) :
    members l.allFields r =
      members l.fields r ++ l.parts.flatMap (fun fields => members fields r) := by
  have hparts : members l.parts.flatten r = l.parts.flatMap (fun fields => members fields r) := by
    induction l.parts with
    | nil => rfl
    | cons fields rest ih =>
        rw [List.flatten_cons, List.flatMap_cons, ← ih]
        exact List.filterMap_append
  rw [← hparts]
  exact List.filterMap_append

theorem encode_eq {l : Layout ρ} (h : l.remainder = none) (r : ρ) :
    l.encode r = .ofDict (.ofList (members l.allFields r)) := by
  unfold encode
  rw [h, List.append_nil, ← members_allFields, Value.ofMembers_eq]

theorem fitsIn_codec {l : Layout ρ} (hremainder : l.remainder = none) {depth : Nat}
    (h : ∀ f ∈ l.allFields, f.FitsIn depth) : l.codec.FitsIn (depth + 1) := by
  intro r
  change (l.encode r).FitsPlainly (depth + 1)
  rw [encode_eq hremainder, ← Value.ofMembers_eq]
  apply Value.fitsPlainly_ofMembers
  intro m hm
  obtain ⟨f, hf, hm⟩ := List.mem_filterMap.1 hm
  obtain ⟨v, hv, rfl⟩ := Option.map_eq_some_iff.1 hm
  exact h f hf _ v hv

end Layout
end Fleet.Json

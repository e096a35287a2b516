import Fleet.Proofs.Json.Normal
import Fleet.Proofs.Json.Origin

/-! # Records that are set aside

The strict layout of a record sets all members aside before it decodes those that are fields.  What a
decoder takes out of a value may depend on that: a choice that is an object is the one case.  A decoder
agrees on a value (`Decoder.AgreesOn`) if it does not.

`Layout.agreesOn_decode` says when a record without parts does, and `Layout.decode_strict_object` what
the strict layout makes of an object. -/

namespace Fleet.Json

variable {α ρ : Type}

/-! ### Decoders -/

/-- Straight from a text the decoder takes the same out of the value as among members set aside. -/
def Decoder.AgreesOn (decode : Decoder α) (v : Value) : Prop :=
  ∀ a, decode .text (.ofValue v) = .ok a ↔ decode .aside (.ofValue v) = .ok a

theorem Decoder.IsUniform.agreesOn {decode : Decoder α} (h : Decoder.IsUniform decode) (v : Value) :
    Decoder.AgreesOn decode v := by
  intro a
  rw [h .text .aside]

theorem Decoder.AgreesOn.optional {decode : Decoder α} {v : Value} (h : Decoder.AgreesOn decode v) :
    Decoder.AgreesOn (Json.optional decode) v := by
  intro a
  by_cases hnull : v = .null
  · subst hnull
    exact Iff.rfl
  · rw [optional_of_ne_null hnull, optional_of_ne_null hnull, Result.map_eq_ok_iff,
      Result.map_eq_ok_iff]
    exact exists_congr (fun b => and_congr_left' (h b))

/-- A choice that is no object is a text or no choice at all. -/
theorem agreesOn_choice (known : List (String × α)) {v : Value} (h : ∀ members, v ≠ .object members) :
    Decoder.AgreesOn (choice known) v := by
  intro a
  cases v with
  | object members => exact absurd rfl (h members)
  | string s => exact Iff.rfl
  | null | bool _ | number _ | array _ =>
      refine iff_of_false ?_ mismatch_ne_ok
      intro htext
      cases htext

/-- What follows the name of an alternative may be an empty object only among members set aside. -/
example : (choice [("auto", 1)] .aside (.ofValue (.object [("auto", .object [])]))).toOption = some 1 ∧
    (choice [("auto", 1)] .text (.ofValue (.object [("auto", .object [])]))).toOption = none := ⟨rfl, rfl⟩

namespace Layout

/-! ### Members -/

variable {l : Layout ρ} {fields : List (Field ρ)} {members : List (String × Value)}

/-- A field that was seen must not be given again. -/
theorem readFields_ne_ok {f : Field ρ} (hfield : field? fields f.key = some f)
    (hin : f.key ∈ members.map Prod.fst) {origin : Origin} {p p' : Progress ρ}
    (hseen : f.key ∈ p.seen) : readFields false fields origin p members ≠ .ok p' := by
  intro h
  induction members generalizing p with
  | nil => cases hin
  | cons m rest ih =>
      obtain ⟨k, v⟩ := m
      rw [readFields] at h
      by_cases hkey : k = f.key
      · subst hkey
        rw [hfield] at h
        obtain ⟨q, hq, -⟩ := Result.exists_of_bind h
        exact (readField_eq_ok_iff.1 hq).1 hseen
      · have hin : f.key ∈ rest.map Prod.fst := (List.mem_cons.1 hin).resolve_left (Ne.symm hkey)
        cases hk : field? fields k with
        | none =>
            rw [hk] at h
            exact ih hin hseen h
        | some g =>
            rw [hk] at h
            obtain ⟨q, hq, h⟩ := Result.exists_of_bind h
            obtain ⟨-, a, -, rfl⟩ := readField_eq_ok_iff.1 hq
            exact ih hin (List.mem_cons_of_mem _ hseen) h

/-- Fields that agree on their members are decoded from them alike.  If a member is given again later,
then they are not decoded at all. -/
theorem readFields_text_iff_aside
    (h : ∀ f ∈ fields, ∀ v, (Dict.ofList members).get? f.key = some v → Decoder.AgreesOn f.decode v)
    {p p' : Progress ρ} : readFields false fields .text p members = .ok p' ↔
      readFields false fields .aside p members = .ok p' := by
  induction members generalizing p with
  | nil => exact Iff.rfl
  | cons m rest ih =>
      obtain ⟨k, v⟩ := m
      have ih := @ih (fun f hf w hw => h f hf w (by rw [Dict.get?_ofList_cons, hw]; rfl))
      rw [readFields, readFields]
      cases hk : field? fields k with
      | none => exact ih
      | some f =>
          obtain ⟨hf, rfl⟩ := key_of_field? hk
          dsimp only
          rw [Result.bind_eq_ok_iff, Result.bind_eq_ok_iff]
          -- of equal names only the last is known to agree, but these are refused either way
          by_cases hagain : f.key ∈ rest.map Prod.fst
          · have hnot : ∀ origin, ¬ ∃ q, readField false f origin (.ofValue v) p = .ok q ∧
                readFields false fields origin q rest = .ok p' := by
              rintro origin ⟨q, hq, hrest⟩
              obtain ⟨-, a, -, rfl⟩ := readField_eq_ok_iff.1 hq
              exact readFields_ne_ok hk hagain List.mem_cons_self hrest
            exact iff_of_false (hnot .text) (hnot .aside)
          · have hagrees : Decoder.AgreesOn f.decode v := by
              refine h f hf v ?_
              have hnone : (Dict.ofList rest).get? f.key = none :=
                Dict.get?_ofList_eq_none (fun e he heq => hagain (heq ▸ List.mem_map_of_mem he))
              rw [Dict.get?_ofList_cons, hnone, if_pos rfl]
              rfl
            refine exists_congr (fun q => and_congr ?_ ih)
            rw [readField_eq_ok_iff, readField_eq_ok_iff]
            exact and_congr_right' (exists_congr (fun a => and_congr_left' (hagrees a)))

/-- What a record without parts makes of an object. -/
theorem decode_object (hplain : l.isPlain = true) (origin : Origin)
    (members : List (String × Value)) : l.decode origin (.ofValue (.object members)) = do
      let p ← readFields l.loose l.fields origin ⟨l.blank, []⟩ members
      demand l.fields p.seen
      return p.record := by
  have hparts := parts_of_isPlain hplain
  have hremainder : l.remainder = none := by
    unfold isPlain at hplain
    rw [Bool.and_eq_true] at hplain
    exact Option.isNone_iff_eq_none.1 hplain.2
  change l.readObject origin (Document.ofMembers members) none = _
  unfold readObject readOthers
  rw [readMembers_ofMembers, hremainder, hparts]
  cases readFields l.loose l.fields origin ⟨l.blank, []⟩ members <;> rfl

/-! ### Lists -/

theorem readPlaces_nil (origin origin' : Origin) (ending : Option Fault) (record : ρ) (place : Nat) :
    l.readPlaces origin ending record place fields [] =
      l.readPlaces origin' ending record place fields [] := by
  induction fields generalizing place with
  | nil => rfl
  | cons f fields ih => rw [readPlaces, readPlaces, ih]

theorem readPlaces_text_iff_aside {items : List Value}
    (h : ∀ e ∈ fields.zip items, Decoder.AgreesOn e.1.decode e.2) {record : ρ} {place : Nat}
    {read : ρ × List Document} :
    l.readPlaces .text none record place fields (Document.ofItems items) = .ok read ↔
      l.readPlaces .aside none record place fields (Document.ofItems items) = .ok read := by
  induction fields generalizing items record place with
  | nil => exact Iff.rfl
  | cons f fields ih =>
      cases items with
      | nil =>
          rw [Document.ofItems, readPlaces_nil .text .aside]
      | cons v items =>
          rw [List.zip_cons_cons, List.forall_mem_cons] at h
          rw [Document.ofItems, readPlaces, readPlaces, Result.bind_eq_ok_iff, Result.bind_eq_ok_iff]
          exact exists_congr (fun a => and_congr (h.1 a) (ih h.2))

theorem get?_of_mem_zip (hdistinct : (fields.map (·.key)).Nodup) {items : List Value}
    {e : Field ρ × Value} (he : e ∈ fields.zip items) :
    (Dict.ofList ((fields.map (·.key)).zip items)).get? e.1.key = some e.2 := by
  induction fields generalizing items with
  | nil => cases he
  | cons f fields ih =>
      cases items with
      | nil => cases he
      | cons v items =>
          rw [List.map_cons, List.nodup_cons] at hdistinct
          rw [List.map_cons, List.zip_cons_cons, Dict.get?_ofList_cons]
          rcases List.mem_cons.1 he with rfl | he
          · have hnone : (Dict.ofList ((fields.map (·.key)).zip items)).get? f.key = none := by
              refine Dict.get?_ofList_eq_none (fun m hm heq => ?_)
              exact hdistinct.1 (heq ▸ (List.of_mem_zip hm).1)
            rw [hnone, if_pos rfl]
            rfl
          · rw [ih hdistinct.2 he]
            rfl

/-! ### Records -/

/-- The value gives `w` for the field with a key, be it an object or a list. -/
def Gives (l : Layout ρ) (v : Value) (key : String) (w : Value) : Prop :=
  (membersOf (l.fields.map (·.key)) v).get? key = some w

/-- The members of a record as they are read. -/
theorem membersOf_settle (keys : List String) (v : Value) :
    membersOf keys v.settle = (membersOf keys v).map Value.settle := by
  cases v with
  | object members =>
      rw [Value.settle_object]
      exact Dict.ofList_entries _
  | array items =>
      rw [Value.settle, membersOf, membersOf, Dict.map_ofList, settleItems_eq_map, List.zip_map_right]
      rfl
  | null | bool _ | number _ | string _ => rfl

theorem Gives.settle {v w : Value} {key : String} (h : l.Gives v key w) :
    l.Gives v.settle key w.settle := by
  unfold Gives at h ⊢
  rw [membersOf_settle, Dict.get?_map, h]
  rfl

/-- A record without parts agrees on a value if its fields agree on what is given for them. -/
theorem agreesOn_decode (hplain : l.isPlain = true) (hloose : l.loose = false)
    (hdistinct : (l.fields.map (·.key)).Nodup) {v : Value}
    (h : ∀ f ∈ l.fields, ∀ w, l.Gives v f.key w → Decoder.AgreesOn f.decode w) :
    Decoder.AgreesOn l.decode v := by
  intro r
  cases v with
  | object members =>
      rw [decode_object hplain, decode_object hplain, hloose, Result.bind_eq_ok_iff,
        Result.bind_eq_ok_iff]
      exact exists_congr (fun p => and_congr_left' (readFields_text_iff_aside h))
  | array items =>
      have hplaces : ∀ e ∈ l.fields.zip items, Decoder.AgreesOn e.1.decode e.2 := fun e he =>
        h e.1 (List.of_mem_zip he).1 e.2 (get?_of_mem_zip hdistinct he)
      have hdecode : ∀ origin, l.decode origin (.ofValue (.array items)) =
          l.readPlaces origin none l.blank 0 l.fields (Document.ofItems items) >>= fun read =>
            l.endPlaces origin (Document.ofItems items).length read.2 none >>= fun _ =>
              .ok read.1 := by
        intro origin
        rw [Document.ofValue, decode, hplain, hloose]
        rfl
      rw [hdecode, hdecode, Result.bind_eq_ok_iff, Result.bind_eq_ok_iff]
      refine exists_congr (fun read => and_congr (readPlaces_text_iff_aside hplaces) ?_)
      rw [Result.bind_eq_ok_iff, Result.bind_eq_ok_iff]
      exact exists_congr (fun _ => and_congr_left'
        (endPlaces_eq_ok_iff.trans endPlaces_eq_ok_iff.symm))
  | null | bool _ | number _ | string _ => exact iff_of_false mismatch_ne_ok mismatch_ne_ok

/-! ### Strict records -/

section Strict

variable {σ : Type} {get : ρ → σ} {set : σ → ρ → ρ}

variable (hget : ∀ s r, get (set s r) = s) (hset : ∀ s s' r, set s' (set s r) = set s' r)

include hget hset

theorem readField_within (f : Field σ) (origin : Origin) (d : Document) (outer : ρ) (p : Progress σ) :
    readField false (f.within get set) origin d ⟨set p.record outer, p.seen⟩ =
      (readField false f origin d p).map (fun p => ⟨set p.record outer, p.seen⟩) := by
  unfold readField
  change (if !false && p.seen.contains f.key then _ else _) = _
  split
  · rfl
  · change (f.decode origin d >>= fun a => .ok _) = (f.decode origin d >>= fun a => _).map _
    cases f.decode origin d with
    | error e => rfl
    | ok a =>
        refine congrArg (fun r => Except.ok (Progress.mk r (f.key :: p.seen))) ?_
        change set (f.set a (get (set p.record outer))) (set p.record outer) = _
        rw [hget, hset]

/-- The fields of a record inside another one are decoded as they are alone. -/
theorem readFields_within (fields : List (Field σ)) (origin : Origin) (outer : ρ) (p : Progress σ)
    (members : List (String × Value)) :
    readFields false (fields.map (·.within get set)) origin ⟨set p.record outer, p.seen⟩ members =
      (readFields false fields origin p members).map
        (fun p => ⟨set p.record outer, p.seen⟩) := by
  induction members generalizing p with
  | nil => rfl
  | cons m rest ih =>
      obtain ⟨k, v⟩ := m
      rw [readFields, readFields, field?_within]
      cases field? fields k with
      | none => exact ih p
      | some f =>
          dsimp only [Option.map_some]
          rw [readField_within hget hset]
          cases readField false f origin (.ofValue v) p with
          | error e => rfl
          | ok q => exact ih q

omit hget hset in
theorem demand_within (fields : List (Field σ)) (seen : List String) :
    demand (fields.map (·.within get set)) seen = demand fields seen := by
  have hfind : (fields.map (·.within get set)).find?
      (fun f => decide (f.presence = .required) && !seen.contains f.key) =
      (fields.find? (fun f => decide (f.presence = .required) && !seen.contains f.key)).map
        (·.within get set) := List.find?_map ..
  unfold demand
  rw [hfind]
  cases fields.find? (fun f => decide (f.presence = .required) && !seen.contains f.key) <;> rfl

end Strict

/-- The members of an object that are no fields, as they are read. -/
def unknown (l : Layout ρ) (members : List (String × Value)) : Dict Value :=
  .ofList (settleMembers (members.filter (fun m => (field? l.fields m.1).isNone)))

theorem mem_keys_unknown {key : String} : key ∈ (l.unknown members).keys ↔
    key ∈ members.map Prod.fst ∧ key ∉ l.fields.map (·.key) := by
  have hfield : ∀ m : String × Value, (field? l.fields m.1).isNone = true ↔
      m.1 ∉ l.fields.map (·.key) := by
    intro m
    rw [Option.isNone_iff_eq_none, field?_eq_none_iff, List.mem_map]
    exact ⟨fun h ⟨f, hf, hkey⟩ => h f hf hkey, fun h f hf hkey => h ⟨f, hf, hkey⟩⟩
  have hkeys : (settleMembers (members.filter (fun m => (field? l.fields m.1).isNone))).map Prod.fst =
      (members.filter (fun m => (field? l.fields m.1).isNone)).map Prod.fst := by
    rw [settleMembers_eq_map, List.map_map]
    rfl
  unfold unknown
  rw [Dict.mem_keys_ofList, hkeys, List.mem_map, List.mem_map]
  constructor
  · rintro ⟨m, hm, rfl⟩
    obtain ⟨hm, hnone⟩ := List.mem_filter.1 hm
    exact ⟨⟨m, hm, rfl⟩, (hfield m).1 hnone⟩
  · rintro ⟨⟨m, hm, rfl⟩, hnot⟩
    exact ⟨m, List.mem_filter.2 ⟨hm, (hfield m).2 hnot⟩, rfl⟩

/-- The strict layout sets all members aside. -/
theorem readMembers_strict (l : Layout ρ) (origin : Origin) (p : Progress (ρ × Dict Value))
    (members : List (String × Value)) :
    l.strict.readMembers origin p (Document.ofMembers members) =
      .ok (p, members.map (fun m => (m.1, .ofValue m.2))) := by
  have hnone : readFields l.strict.loose l.strict.fields origin p members = .ok p := by
    induction members with
    | nil => rfl
    | cons m rest ih => exact ih
  have hall : l.strict.setAside members = members.map (fun m => (m.1, .ofValue m.2)) :=
    congrArg _ (List.filter_eq_self.2 (fun _ _ => rfl))
  rw [readMembers_ofMembers, hnone, hall]
  rfl

/-- The strict layout keeps the members that are no fields. -/
theorem readOthers_strict (l : Layout ρ) (members : List (String × Value))
    (record : ρ × Dict Value) :
    l.strict.readOthers (members.map (fun m => (m.1, .ofValue m.2))) record =
      .ok (record.1, l.unknown members) := by
  have hothers : l.strict.others (members.map (fun m => (m.1, .ofValue m.2))) =
      (members.filter (fun m => (field? l.fields m.1).isNone)).map
        (fun m => (m.1, .ofValue m.2)) := by
    unfold others
    rw [List.filter_map]
    refine congrArg _ (List.filter_congr (fun m _ => ?_))
    change ((field? (l.fields.map _) m.1).isNone && true) = _
    rw [field?_within, Option.isNone_map, Bool.and_true]
  have hgiven : (l.strict.others (members.map (fun m => (m.1, .ofValue m.2)))).map
      (fun m => ((.ok m.1 : Except SyntaxError String), m.2)) =
      Document.ofMembers (members.filter (fun m => (field? l.fields m.1).isNone)) := by
    rw [hothers, List.map_map, Document.ofMembers_eq_map]
    rfl
  change (malformed (Document.toMembers ((l.strict.others _).map _)) >>= fun entries => .ok _) = _
  rw [hgiven, Document.toMembers_ofMembers_eq]
  rfl

/-- What the strict layout makes of an object: the fields are decoded as members set aside, and the
other members are kept. -/
theorem decode_strict_object (l : Layout ρ) (origin : Origin) (members : List (String × Value)) :
    l.strict.decode origin (.ofValue (.object members)) = do
      let p ← readFields false l.fields .aside ⟨l.blank, []⟩ members
      demand l.fields p.seen
      return (p.record, l.unknown members) := by
  have hparts : readParts l.strict.blank (members.map (fun m => (m.1, .ofValue m.2)))
      l.strict.parts = do
        let p ← readFields false l.fields .aside ⟨l.blank, []⟩ members
        demand l.fields p.seen
        return (p.record, .empty) := by
    change (readAside (l.fields.map _) ⟨l.strict.blank, []⟩ _ >>= fun p =>
      demand (l.fields.map _) p.seen >>= fun _ => .ok p.record) = _
    rw [readAside_map]
    have hfields := @readFields_within (ρ × Dict Value) ρ Prod.fst (fun r s => (r, s.2))
      (fun _ _ => rfl) (fun _ _ _ => rfl) l.fields .aside l.strict.blank ⟨l.blank, []⟩ members
    change readFields _ _ _ ⟨l.strict.blank, []⟩ _ = _ at hfields
    rw [hfields]
    cases readFields false l.fields .aside ⟨l.blank, []⟩ members with
    | error e => rfl
    | ok p =>
        change (demand (l.fields.map _) p.seen >>= fun _ => _) = _
        rw [demand_within]
        rfl
  change l.strict.readObject origin (Document.ofMembers members) none = _
  unfold readObject
  rw [readMembers_strict]
  change (readParts l.strict.blank _ l.strict.parts >>= fun record =>
    l.strict.readOthers _ record) = _
  rw [hparts, bind_assoc]
  refine bind_congr (fun p => ?_)
  rw [bind_assoc]
  exact bind_congr (fun _ => readOthers_strict l members _)

/-- A record without parts is decoded strictly as it is among members set aside; besides, what is no
field is kept. -/
theorem decode_strict_of_isPlain (hplain : l.isPlain = true) (hloose : l.loose = false)
    (origin : Origin) (members : List (String × Value)) :
    l.strict.decode origin (.ofValue (.object members)) =
      (l.decode .aside (.ofValue (.object members))).map (fun r => (r, l.unknown members)) := by
  rw [decode_strict_object, decode_object hplain, hloose]
  cases readFields false l.fields .aside ⟨l.blank, []⟩ members with
  | error e => rfl
  | ok p =>
      change (demand l.fields p.seen >>= fun _ => _) = (demand l.fields p.seen >>= fun _ => _).map _
      cases demand l.fields p.seen <;> rfl

/-- Nothing but an object is decoded strictly. -/
theorem exists_object_of_decode_strict {origin : Origin} {v : Value} {r : ρ × Dict Value}
    (h : l.strict.decode origin (.ofValue v) = .ok r) : ∃ members, v = .object members := by
  cases v with
  | object members => exact ⟨members, rfl⟩
  | null | bool _ | number _ | string _ | array _ => exact absurd h mismatch_ne_ok

end Layout
end Fleet.Json

import Fleet.Proofs.Json.Acceptance
import Mathlib.Data.List.Forall2

/-! # Normal forms

Reading a record and writing it again drops the members that are no fields, those that hold a default,
and the order.  A `Rule` says of one field which values may stand under its key and what is written
for them; `Form.record` puts the rules of all fields together.  If each field follows its rule, a
record is read from just the values that its form allows, and written as their normal form
(`Layout.follows_record`).

`Rule.text`, `Rule.optional` and `Rule.dict` are the rules of the kinds of field there are. -/

namespace Fleet.Json

/-- What may be written for something, and how it is written again. -/
structure Form where
  /-- The values that are read. -/
  Allows : Value → Prop
  /-- What is written for one of them. -/
  normal : Value → Value

/-- The instant that a value writes, if it does. -/
def Value.instant? : Value → Option Instant
  | .string s => (Instant.parse s).toOption
  | _ => none

/-- Texts that write an instant. -/
def Form.instant : Form where
  Allows v := ∃ t, v.instant? = some t
  normal v := v.instant?.elim v (fun t => .string t.print)

/-- What may stand under a key, and what is written there again. -/
structure Rule where
  /-- The values that are read. -/
  Allows : Value → Prop
  /-- What is written for one of them, if anything. -/
  written : Value → Option Value

namespace Rule

/-- A text; it is left out if it is empty. -/
def text : Rule where
  Allows v := ∃ s, v = .string s
  written v := if v = .string "" then none else some v

theorem text_string (s : String) :
    text.written (.string s) = if s.isEmpty then none else some (.string s) := by
  unfold text
  simp only [String.isEmpty_iff, Value.string.injEq]

/-- Null, which is left out, or a value of the form. -/
def optional (form : Form) : Rule where
  Allows v := v = .null ∨ form.Allows v
  written
    | .null => none
    | v => some (form.normal v)

/-- A map of values of the form; it is left out if it is empty. -/
def dict (form : Form) : Rule where
  Allows v := ∃ members, v = .object members ∧ ∀ m ∈ members, form.Allows m.2
  written
    | .object [] => none
    | .object members => some (.ofMembers (members.map (fun m => (m.1, form.normal m.2))))
    | v => some v

end Rule

/-- The members with the given names, as their rules write them. -/
def pick (rules : List (String × Rule)) (d : Dict Value) : Dict Value :=
  .ofList (rules.filterMap (fun r => ((d.get? r.1).bind r.2.written).map (fun v => (r.1, v))))

/-- Records with fields of the given names: objects that give each of them once at most, and lists of
their values in this order if there is such a form. -/
def Form.record (rules : List (String × Rule)) (listed : Bool) : Form where
  Allows
    | .object members => ∀ r ∈ rules, members.countP (fun m => m.1 == r.1) ≤ 1 ∧
      ∀ v, (r.1, v) ∈ members → r.2.Allows v
    | .array items => listed = true ∧ items.length ≤ rules.length ∧
      ∀ e ∈ rules.zip items, e.1.2.Allows e.2
    | _ => False
  normal v := .ofDict (pick rules (Layout.membersOf (rules.map Prod.fst) v))

/-! ### Fields that follow a rule -/

variable {ρ σ α : Type}

/-- Values of a type are read from what the form allows, wherever it comes from, and are written in
its normal form. -/
structure Codec.Follows (c : Codec α) (form : Form) : Prop where
  allowed : ∀ origin v, (∃ a, c.decode origin (.ofValue v) = .ok a) ↔ form.Allows v
  written : ∀ origin v a, c.decode origin (.ofValue v) = .ok a → c.encode a = form.normal v

/-- A field is read from what its rule allows, and written as its rule says; its default is left
out. -/
structure Field.Follows (blank : ρ) (f : Field ρ) (rule : String × Rule) : Prop where
  key : f.key = rule.1
  presence : f.presence = .defaulted
  allowed : ∀ origin v, (∃ a, f.decode origin (.ofValue v) = .ok a) ↔ rule.2.Allows v
  written : ∀ origin v a, f.decode origin (.ofValue v) = .ok a → f.encode a = rule.2.written v
  blank : f.encode (f.get blank) = none

theorem mismatch_ne_ok {expected : Expected} {d : Document} {a : α} :
    (mismatch expected d : Except DecodeError α) ≠ .ok a := by
  intro h
  obtain ⟨found, -, h⟩ := Result.exists_of_bind h
  cases h

theorem optional_of_ne_null {decode : Decoder α} {origin : Origin} {v : Value} (h : v ≠ .null) :
    Json.optional decode origin (.ofValue v) = (decode origin (.ofValue v)).map some := by
  cases v with
  | null => exact absurd rfl h
  | bool _ | number _ | string _ | array _ | object _ => rfl

theorem instant_eq_ok_iff {origin : Origin} {v : Value} {t : Instant} :
    Json.instant origin (.ofValue v) = .ok t ↔ v.instant? = some t := by
  cases v with
  | string s =>
      have hdecode : Json.instant origin (.ofValue (.string s)) =
          (Instant.parse s).mapError DecodeError.invalidInstant := rfl
      rw [hdecode, Result.mapError_eq_ok_iff]
      exact Result.toOption_eq_some_iff.symm
  | null | bool _ | number _ | array _ | object _ =>
      constructor
      · intro h
        exact absurd h mismatch_ne_ok
      · intro h
        cases h

theorem Codec.follows_instant : Codec.instant.Follows .instant where
  allowed := by
    intro origin v
    exact exists_congr (fun t => instant_eq_ok_iff)
  written := by
    intro origin v t h
    have hv := instant_eq_ok_iff.1 h
    change Value.string t.print = v.instant?.elim v (fun t => .string t.print)
    rw [hv]
    rfl

namespace Field

variable {blank : ρ}

theorem Follows.within {f : Field σ} {rule : String × Rule} {get : ρ → σ} {set : σ → ρ → ρ}
    (h : f.Follows (get blank) rule) : (f.within get set).Follows blank rule :=
  ⟨h.key, h.presence, h.allowed, h.written, h.blank⟩

theorem Follows.reads_iff {f : Field ρ} {rule : String × Rule} (h : f.Follows blank rule)
    (v : Value) : f.Reads v ↔ rule.2.Allows v := h.allowed .value v

theorem Follows.steady {f : Field ρ} {rule : String × Rule} (h : f.Follows blank rule) :
    f.Steady := by
  refine ⟨h.presence, ?_⟩
  intro origin v
  rw [h.allowed origin v, h.reads_iff v]

theorem follows_textOrEmpty {key : String} {get : ρ → String} {set : String → ρ → ρ}
    (h : get blank = "") : (textOrEmpty key get set).Follows blank (key, .text) where
  key := rfl
  presence := rfl
  allowed := by
    intro origin v
    constructor
    · rintro ⟨a, hv⟩
      cases v with
      | string s => exact ⟨s, rfl⟩
      | null | bool _ | number _ | array _ | object _ => exact absurd hv mismatch_ne_ok
    · rintro ⟨s, rfl⟩
      exact ⟨s, rfl⟩
  written := by
    intro origin v a hv
    cases v with
    | string s =>
        cases hv
        exact (Rule.text_string a).symm
    | null | bool _ | number _ | array _ | object _ => exact absurd hv mismatch_ne_ok
  blank := by
    change (if (get blank).isEmpty then none else some (Value.string (get blank))) = none
    rw [h]
    rfl

theorem follows_optional {key : String} {c : Codec α} {form : Form} (hc : c.Follows form)
    {get : ρ → Option α} {set : Option α → ρ → ρ} (h : get blank = none) :
    (Field.optional key c get set).Follows blank (key, .optional form) where
  key := rfl
  presence := rfl
  allowed := by
    intro origin v
    by_cases hnull : v = .null
    · subst hnull
      exact ⟨fun _ => Or.inl rfl, fun _ => ⟨none, rfl⟩⟩
    · change (∃ a, Json.optional c.decode origin (.ofValue v) = .ok a) ↔ v = .null ∨ form.Allows v
      rw [optional_of_ne_null hnull, Result.exists_map_iff, hc.allowed origin v]
      exact (or_iff_right hnull).symm
  written := by
    intro origin v a hv
    by_cases hnull : v = .null
    · subst hnull
      cases hv
      rfl
    · change Json.optional c.decode origin (.ofValue v) = .ok a at hv
      rw [optional_of_ne_null hnull] at hv
      obtain ⟨b, hb, rfl⟩ := Result.exists_of_map hv
      have hwritten : (Rule.optional form).written v = some (form.normal v) := by
        cases v with
        | null => exact absurd rfl hnull
        | bool _ | number _ | string _ | array _ | object _ => rfl
      rw [hwritten, ← hc.written origin v b hb]
      rfl
  blank := by
    change (get blank).map c.encode = none
    rw [h]
    rfl

/-! ### Maps -/

theorem exists_mapEntries_iff {c : Codec α} {form : Form} (hc : c.Follows form) {origin : Origin}
    {members : List (String × Value)} :
    (∃ entries, mapEntries (c.decode origin) (Document.ofMembers members) = .ok entries) ↔
      ∀ m ∈ members, form.Allows m.2 := by
  induction members with
  | nil => exact ⟨fun _ m hm => absurd hm List.not_mem_nil, fun _ => ⟨[], rfl⟩⟩
  | cons m rest ih =>
      obtain ⟨k, v⟩ := m
      rw [Document.ofMembers, mapEntries, List.forall_mem_cons, ← ih, ← hc.allowed origin v]
      constructor
      · rintro ⟨entries, h⟩
        obtain ⟨k', -, h⟩ := Result.exists_of_bind h
        obtain ⟨a, ha, h⟩ := Result.exists_of_bind h
        obtain ⟨as, has, -⟩ := Result.exists_of_bind h
        exact ⟨⟨a, ha⟩, ⟨as, has⟩⟩
      · rintro ⟨⟨a, ha⟩, ⟨as, has⟩⟩
        refine ⟨(k, a) :: as, ?_⟩
        rw [ha, has]
        rfl

theorem map_of_mapEntries {c : Codec α} {form : Form} (hc : c.Follows form)
    {origin : Origin} {members : List (String × Value)} {entries : List (String × α)}
    (h : mapEntries (c.decode origin) (Document.ofMembers members) = .ok entries) :
    entries.map (fun e => (e.1, c.encode e.2)) = members.map (fun m => (m.1, form.normal m.2)) := by
  induction members generalizing entries with
  | nil =>
      cases h
      rfl
  | cons m rest ih =>
      obtain ⟨k, v⟩ := m
      rw [Document.ofMembers, mapEntries] at h
      obtain ⟨k', hk, h⟩ := Result.exists_of_bind h
      obtain ⟨a, ha, h⟩ := Result.exists_of_bind h
      obtain ⟨as, has, h⟩ := Result.exists_of_bind h
      cases hk
      cases h
      rw [List.map_cons, List.map_cons, ih has, hc.written origin v a ha]

theorem follows_dictOrEmpty {key : String} {c : Codec α} {form : Form} (hc : c.Follows form)
    {get : ρ → Dict α} {set : Dict α → ρ → ρ} (h : get blank = .empty) :
    (dictOrEmpty key c get set).Follows blank (key, .dict form) where
  key := rfl
  presence := rfl
  allowed := by
    intro origin v
    constructor
    · rintro ⟨a, hv⟩
      cases v with
      | object members =>
          obtain ⟨entries, hentries, -⟩ := Result.exists_of_bind hv
          exact ⟨members, rfl, (exists_mapEntries_iff hc).1 ⟨entries, hentries⟩⟩
      | null | bool _ | number _ | string _ | array _ => exact absurd hv mismatch_ne_ok
    · rintro ⟨members, rfl, hmembers⟩
      obtain ⟨entries, hentries⟩ := (@exists_mapEntries_iff _ _ _ hc origin members).2 hmembers
      refine ⟨Dict.ofList entries, ?_⟩
      change (mapEntries (c.decode origin) (Document.ofMembers members) >>= fun entries =>
        ended none >>= fun _ => .ok (Dict.ofList entries)) = _
      rw [hentries]
      rfl
  written := by
    intro origin v a hv
    cases v with
    | object members =>
        obtain ⟨entries, hentries, hv⟩ := Result.exists_of_bind hv
        obtain ⟨-, -, hv⟩ := Result.exists_of_bind hv
        cases hv
        have hmap := map_of_mapEntries hc hentries
        change (if (Dict.ofList entries).isEmpty then none
          else some (Value.ofDict ((Dict.ofList entries).map c.encode))) = _
        rw [Dict.isEmpty_ofList, Dict.map_ofList, hmap, ← Value.ofMembers_eq]
        cases members with
        | nil =>
            cases hentries
            rfl
        | cons m rest =>
            cases entries with
            | nil => cases hmap
            | cons e entries => rfl
    | null | bool _ | number _ | string _ | array _ => exact absurd hv mismatch_ne_ok
  blank := by
    change (if (get blank).isEmpty then none else some (Value.ofDict ((get blank).map c.encode))) =
      none
    rw [h]
    rfl

end Field

/-! ### Records -/

namespace Layout

variable {blank : ρ} {fields : List (Field ρ)} {rules : List (String × Rule)}

theorem members_eq_of_follows {r : ρ} (h : List.Forall₂ (Field.Follows blank) fields rules)
    {d : Dict Value} (hholds : ∀ f ∈ fields, f.Holds blank (d.get? f.key) r) :
    members fields r = rules.filterMap
      (fun rule => ((d.get? rule.1).bind rule.2.written).map (fun v => (rule.1, v))) := by
  induction h with
  | nil => rfl
  | @cons f rule fields rules hf h ih =>
      have ih := ih (fun f hf => hholds f (List.mem_cons_of_mem _ hf))
      have hwritten : f.encode (f.get r) = (d.get? rule.1).bind rule.2.written := by
        have hholds := hholds f List.mem_cons_self
        rw [hf.key] at hholds
        cases hmember : d.get? rule.1 with
        | none =>
            rw [hmember] at hholds
            exact (congrArg f.encode hholds).trans hf.blank
        | some v =>
            rw [hmember] at hholds
            obtain ⟨origin, hv⟩ := hholds
            exact hf.written origin v _ hv
      unfold members at ih ⊢
      rw [List.filterMap_cons, List.filterMap_cons, ih, hwritten, hf.key]

theorem map_key_of_follows (h : List.Forall₂ (Field.Follows blank) fields rules) :
    fields.map (·.key) = rules.map Prod.fst := by
  induction h with
  | nil => rfl
  | cons hf h ih => rw [List.map_cons, List.map_cons, ih, hf.key]

/-- What holds of a field if and only if it holds of its rule holds of all fields or of no rule. -/
theorem forall_iff_of_follows (h : List.Forall₂ (Field.Follows blank) fields rules)
    {P : Field ρ → Prop} {Q : String × Rule → Prop}
    (hiff : ∀ f rule, f.Follows blank rule → (P f ↔ Q rule)) :
    (∀ f ∈ fields, P f) ↔ ∀ rule ∈ rules, Q rule := by
  induction h with
  | nil => exact ⟨fun _ rule hrule => absurd hrule List.not_mem_nil,
      fun _ f hf => absurd hf List.not_mem_nil⟩
  | cons hf h ih => rw [List.forall_mem_cons, List.forall_mem_cons, ih, hiff _ _ hf]

theorem steady_of_follows (h : List.Forall₂ (Field.Follows blank) fields rules) :
    ∀ f ∈ fields, f.Steady := by
  induction h with
  | nil => exact fun f hf => absurd hf List.not_mem_nil
  | cons hf h ih => exact List.forall_mem_cons.2 ⟨hf.steady, ih⟩

theorem forall_zip_iff_of_follows (h : List.Forall₂ (Field.Follows blank) fields rules)
    (items : List Value) :
    (∀ e ∈ fields.zip items, e.1.Reads e.2) ↔ ∀ e ∈ rules.zip items, e.1.2.Allows e.2 := by
  induction h generalizing items with
  | nil => simp
  | @cons f rule fields rules hf h ih =>
      cases items with
      | nil => simp
      | cons v items =>
          rw [List.zip_cons_cons, List.zip_cons_cons, List.forall_mem_cons, List.forall_mem_cons,
            ih, hf.reads_iff v]

theorem reads_iff_of_follows {l : Layout ρ}
    (h : List.Forall₂ (Field.Follows blank) l.allFields rules) (v : Value) :
    l.Reads v ↔ (Form.record rules l.isPlain).Allows v := by
  cases v with
  | object members =>
      apply forall_iff_of_follows h
      intro f rule hf
      rw [← hf.key]
      constructor
      · intro hreads
        exact ⟨hreads.once, fun v hv => (hf.reads_iff v).1 (hreads.reads v hv)⟩
      · rintro ⟨honce, hallows⟩
        exact ⟨honce, fun v hv => (hf.reads_iff v).2 (hallows v hv)⟩
  | array items =>
      apply and_congr_right
      intro hplain
      rw [allFields_of_isPlain hplain] at h
      rw [h.length_eq, forall_zip_iff_of_follows h]
  | null | bool _ | number _ | string _ => exact Iff.rfl

/-- A record is read from what the rules of its fields allow, and written in their normal form. -/
theorem follows_record {l : Layout ρ} (hl : LawfulFields l.allFields)
    (hremainder : l.remainder = none) (hloose : l.loose = false)
    (hrules : List.Forall₂ (Field.Follows l.blank) l.allFields rules) :
    l.codec.Follows (Form.record rules l.isPlain) where
  allowed := by
    intro origin v
    exact (exists_decode_iff (steady_of_follows hrules) hl.distinct hremainder hloose).trans
      (reads_iff_of_follows hrules v)
  written := by
    intro origin v r h
    change l.encode r = .ofDict (pick rules (membersOf (rules.map Prod.fst) v))
    unfold pick
    rw [encode_eq hremainder, ← map_key_of_follows hrules,
      members_eq_of_follows hrules (fun f hf => holds_of_decode hl hremainder hf h)]

end Layout
end Fleet.Json

import Fleet.Proofs.Instant.Parsed
import Fleet.Proofs.Json.Normal
import Fleet.Proofs.Json.RoundTrip

/-! # Formats that are stable

A record that was read from a text is read again from the text that it is written as, if the binary64
numbers in it survive their text form (`Codec.Stable.decodeText_render`).  This is not true of every
record there is: an instant outside the calendar, or a fact nested too deep, is written as something
that is not read again.  So what is read is bounded: a value `Codec.Keeps` at a depth if what is
written for it is nested no deeper and reads as the value again, and a codec is `Codec.Stable` if
whatever it reads from a document of some depth keeps at that depth.

A codec may itself add levels that the text did not have, where a record that stands for nothing is
always written; so it is only stable where so many levels are left.  `Layout.stable_codec` puts a
record together from its fields. -/

namespace Fleet.Json

variable {ρ σ α : Type}

/-! ### Values -/

/-- What is written for a value is nested at most so deep, and reads as the value again. -/
structure Codec.Keeps (c : Codec α) (depth : Nat) (a : α) : Prop where
  fits : (c.encode a).Fits depth
  reads : ∀ origin, c.decode origin (.ofValue (c.encode a)) = .ok a

/-- Whatever is read where so many levels are left keeps. -/
def Codec.Stable (c : Codec α) (levels : Nat) : Prop :=
  ∀ depth origin d a, levels ≤ depth → Document.Bounded depth d → c.decode origin d = .ok a →
    c.Keeps depth a

/-- A codec of which every value keeps is stable. -/
theorem Codec.stable_of_keeps {c : Codec α} (h : ∀ depth a, c.Keeps (depth + 1) a) (levels : Nat) :
    c.Stable (levels + 1) := by
  intro depth _ _ a hdepth _ _
  obtain ⟨depth, rfl⟩ := Nat.exists_eq_add_of_le' (Nat.le_trans (Nat.le_add_left 1 levels) hdepth)
  exact h depth a

theorem Codec.keeps_text (depth : Nat) (s : String) : Codec.text.Keeps depth s :=
  ⟨trivial, fun _ => rfl⟩

theorem Codec.keeps_bool (depth : Nat) (b : Bool) : Codec.bool.Keeps depth b :=
  ⟨trivial, fun _ => rfl⟩

theorem Codec.keeps_instant (depth : Nat) {t : Instant} (h : t.IsCalendar) :
    Codec.instant.Keeps depth t := by
  have hv : (Value.string t.print).instant? = some t := by
    rw [Value.instant?, Instant.parse_print h]
    rfl
  have hread : ∀ origin, Json.instant origin (.ofValue (.string t.print)) = .ok t :=
    fun origin => instant_eq_ok_iff.2 hv
  exact ⟨trivial, hread⟩

theorem Codec.stable_text (levels : Nat) : Codec.text.Stable levels :=
  fun depth _ _ s _ _ _ => keeps_text depth s

theorem Codec.stable_bool (levels : Nat) : Codec.bool.Stable levels :=
  fun depth _ _ b _ _ _ => keeps_bool depth b

/-- An instant is read from a text only. -/
theorem Codec.stable_instant (levels : Nat) : Codec.instant.Stable levels := by
  intro depth origin d t _ _ h
  cases d with
  | string s =>
      obtain ⟨s, -, h⟩ := Result.exists_of_bind h
      exact keeps_instant depth (Instant.isCalendar_of_parse (Result.mapError_eq_ok_iff.1 h))
  | null | bool _ | number _ | array _ _ _ | object _ _ _ | broken _ _ =>
      exact absurd h mismatch_ne_ok

/-- Any value comes back if it fits, and what is read fits. -/
theorem Codec.stable_any (levels : Nat) : Codec.any.Stable levels := by
  intro depth origin d v _ hd h
  have hfits : v.Fits depth := hd.shallow v (Result.mapError_eq_ok_iff.1 h)
  exact ⟨hfits, fun _ => Result.mapError_eq_ok_iff.2 (Document.toValue_ofValue hfits)⟩

theorem Codec.keeps_choice {known : List (String × α)} {name : α → String}
    (h : ∀ a, variant known (name a) = .ok a) (depth : Nat) (a : α) :
    (Codec.choice known name).Keeps depth a := by
  refine ⟨trivial, ?_⟩
  intro origin
  cases origin <;> exact h a

/-! ### Maps -/

theorem keeps_of_mapEntries {c : Codec α} {levels depth : Nat} (hc : c.Stable levels)
    (hdepth : levels ≤ depth) {origin : Origin}
    {members : List (Except SyntaxError String × Document)}
    (hmembers : ∀ m ∈ members, Document.Bounded depth m.2) {entries : List (String × α)}
    (h : mapEntries (c.decode origin) members = .ok entries) :
    ∀ e ∈ entries, c.Keeps depth e.2 := by
  induction members generalizing entries with
  | nil =>
      cases h
      exact fun e he => absurd he List.not_mem_nil
  | cons m rest ih =>
      obtain ⟨hm, hrest⟩ := List.forall_mem_cons.1 hmembers
      rw [mapEntries] at h
      obtain ⟨k, -, h⟩ := Result.exists_of_bind h
      obtain ⟨a, ha, h⟩ := Result.exists_of_bind h
      obtain ⟨as, has, h⟩ := Result.exists_of_bind h
      cases h
      exact List.forall_mem_cons.2 ⟨hc depth origin m.2 a hdepth hm ha, ih hrest has⟩

theorem mapEntries_of_keeps {c : Codec α} {depth : Nat} {origin : Origin}
    {entries : List (String × α)} (h : ∀ e ∈ entries, c.Keeps depth e.2) :
    mapEntries (c.decode origin)
      (Document.ofMembers (entries.map (fun e => (e.1, c.encode e.2)))) = .ok entries := by
  induction entries with
  | nil => rfl
  | cons e rest ih =>
      obtain ⟨he, hrest⟩ := List.forall_mem_cons.1 h
      rw [List.map_cons, Document.ofMembers, mapEntries, he.reads origin, ih hrest]
      rfl

theorem Codec.keeps_dict {c : Codec α} {depth : Nat} {d : Dict α}
    (h : ∀ e ∈ d.entries, c.Keeps depth e.2) : c.dict.Keeps (depth + 1) d where
  fits := by
    apply Value.fits_ofDict
    intro e he
    obtain ⟨e', he', rfl⟩ := List.mem_map.1 he
    exact (h e' he').fits
  reads := by
    intro origin
    change (mapEntries (c.decode origin) (Document.ofMembers (d.map c.encode).entries) >>=
      fun entries => ended none >>= fun _ => .ok (Dict.ofList entries)) = _
    have hentries : mapEntries (c.decode origin) (Document.ofMembers (d.map c.encode).entries) =
        .ok d.entries := mapEntries_of_keeps h
    rw [hentries]
    exact congrArg Except.ok d.ofList_entries

theorem Codec.Stable.dict {c : Codec α} {levels : Nat} (hc : c.Stable levels) :
    c.dict.Stable (levels + 1) := by
  intro depth origin d a hdepth hd h
  cases hd with
  | object ending hmembers =>
      obtain ⟨entries, hentries, h⟩ := Result.exists_of_bind h
      obtain ⟨-, -, h⟩ := Result.exists_of_bind h
      cases h
      have hkeeps := keeps_of_mapEntries hc (by omega) hmembers hentries
      exact keeps_dict (fun e he => hkeeps e (Dict.mem_of_mem_ofList he))
  | objectTooDeep => cases h
  | null | bool _ | number _ | string _ | broken _ _ | arrayTooDeep _ _ | array _ _ =>
      exact absurd h mismatch_ne_ok

/-! ### Fields -/

/-- What a field holds comes back: it is written and reads as it again, or it is left out and is what
the field holds without a member. -/
def Field.Keeps (blank : ρ) (f : Field ρ) (depth : Nat) (a : f.α) : Prop :=
  match f.encode a with
  | some v => v.Fits depth ∧ ∀ origin, f.decode origin (.ofValue v) = .ok a
  | none => f.presence ≠ .required ∧ a = f.get blank

/-- Whatever a field holds after it was read where so many levels are left keeps, and what it holds
before. -/
structure Field.Stable (blank : ρ) (f : Field ρ) (levels : Nat) : Prop where
  before : ∀ depth, levels ≤ depth → f.Keeps blank depth (f.get blank)
  read : ∀ depth origin d a, levels ≤ depth → Document.Bounded depth d → f.decode origin d = .ok a →
    f.Keeps blank depth a

namespace Field

variable {blank : ρ} {key : String} {levels : Nat}

theorem Stable.required {c : Codec α} {get : ρ → α} {set : α → ρ → ρ} (hc : c.Stable levels)
    (hblank : ∀ depth, levels ≤ depth → c.Keeps depth (get blank)) :
    (Field.required key c get set).Stable blank levels where
  before := fun depth hdepth => ⟨(hblank depth hdepth).fits, (hblank depth hdepth).reads⟩
  read := by
    intro depth origin d a hdepth hd h
    have hkeeps := hc depth origin d a hdepth hd h
    exact ⟨hkeeps.fits, hkeeps.reads⟩

theorem Stable.defaulted {c : Codec α} {get : ρ → α} {set : α → ρ → ρ} (hc : c.Stable levels)
    (hblank : ∀ depth, levels ≤ depth → c.Keeps depth (get blank)) :
    (Field.defaulted key c get set).Stable blank levels where
  before := fun depth hdepth => ⟨(hblank depth hdepth).fits, (hblank depth hdepth).reads⟩
  read := by
    intro depth origin d a hdepth hd h
    have hkeeps := hc depth origin d a hdepth hd h
    exact ⟨hkeeps.fits, hkeeps.reads⟩

/-- A field may be left out if what is left out is what it holds without a member. -/
theorem keeps_omitted {c : Codec α} {isDefault : α → Bool} {get : ρ → α} {set : α → ρ → ρ}
    (hdefault : ∀ a, isDefault a = true ↔ a = get blank) {depth : Nat} {a : α}
    (ha : isDefault a = false → c.Keeps depth a) :
    (Field.omitted key c isDefault get set).Keeps blank depth a := by
  unfold Keeps
  cases h : isDefault a with
  | true =>
      have hencode : (Field.omitted key c isDefault get set).encode a = none := if_pos h
      rw [hencode]
      exact ⟨nofun, (hdefault a).1 h⟩
  | false =>
      have hencode : (Field.omitted key c isDefault get set).encode a = some (c.encode a) :=
        if_neg (by rw [h]; exact Bool.false_ne_true)
      rw [hencode]
      exact ⟨(ha h).fits, (ha h).reads⟩

theorem Stable.omitted {c : Codec α} {isDefault : α → Bool} {get : ρ → α} {set : α → ρ → ρ}
    (hc : c.Stable levels) (hdefault : ∀ a, isDefault a = true ↔ a = get blank) :
    (Field.omitted key c isDefault get set).Stable blank levels where
  before := by
    intro depth _
    have hblank : isDefault (get blank) = true := (hdefault _).2 rfl
    exact keeps_omitted hdefault (fun h => absurd (h.symm.trans hblank) Bool.false_ne_true)
  read depth origin d a hdepth hd h :=
    keeps_omitted hdefault (fun _ => hc depth origin d a hdepth hd h)

theorem keeps_textOrEmpty {get : ρ → String} {set : String → ρ → ρ} (h : get blank = "")
    (depth : Nat) (s : String) : (Field.textOrEmpty key get set).Keeps blank depth s :=
  keeps_omitted (fun s => by simp [h]) (fun _ => Codec.keeps_text depth s)

theorem Stable.textOrEmpty {get : ρ → String} {set : String → ρ → ρ} (h : get blank = "") :
    (Field.textOrEmpty key get set).Stable blank levels :=
  Stable.omitted (Codec.stable_text levels) (fun s => by simp [h])

theorem keeps_dictOrEmpty {c : Codec α} {get : ρ → Dict α} {set : Dict α → ρ → ρ}
    (h : get blank = .empty) {depth : Nat} {d : Dict α} (hd : ∀ e ∈ d.entries, c.Keeps depth e.2) :
    (Field.dictOrEmpty key c get set).Keeps blank (depth + 1) d :=
  keeps_omitted (fun _ => h ▸ Dict.isEmpty_iff_eq_empty) (fun _ => Codec.keeps_dict hd)

theorem Stable.dictOrEmpty {c : Codec α} (hc : c.Stable levels) {get : ρ → Dict α}
    {set : Dict α → ρ → ρ} (h : get blank = .empty) :
    (Field.dictOrEmpty key c get set).Stable blank (levels + 1) :=
  Stable.omitted hc.dict (fun _ => h ▸ Dict.isEmpty_iff_eq_empty)

/-- A field that may have no value comes back if no value is written as none. -/
theorem keeps_optional {c : Codec α} (hnull : ∀ a, c.encode a ≠ .null) {get : ρ → Option α}
    {set : Option α → ρ → ρ} (h : get blank = none) {depth : Nat} {a : Option α}
    (ha : ∀ b, a = some b → c.Keeps depth b) :
    (Field.optional key c get set).Keeps blank depth a := by
  cases a with
  | none => exact ⟨nofun, h.symm⟩
  | some b =>
      refine ⟨(ha b rfl).fits, ?_⟩
      intro origin
      change Json.optional c.decode origin (.ofValue (c.encode b)) = _
      rw [optional_of_ne_null (hnull b), (ha b rfl).reads origin]
      rfl

theorem Stable.optional {c : Codec α} (hc : c.Stable levels) (hnull : ∀ a, c.encode a ≠ .null)
    {get : ρ → Option α} {set : Option α → ρ → ρ} (h : get blank = none) :
    (Field.optional key c get set).Stable blank levels where
  before := by
    intro depth _
    refine keeps_optional hnull h (fun b hb => ?_)
    exact absurd (h.symm.trans hb) nofun
  read := by
    intro depth origin d a hdepth hd hread
    refine keeps_optional hnull h ?_
    rintro b rfl
    have hsome : (c.decode origin d).map some = .ok (some b) → c.Keeps depth b := by
      intro hb
      obtain ⟨b', hb', heq⟩ := Result.exists_of_map hb
      cases heq
      exact hc depth origin d b hdepth hd hb'
    cases d with
    | null => cases hread
    | broken start f =>
        cases start with
        | null => cases hread
        | nothing | scalar | quote => exact hsome hread
    | bool _ | number _ | string _ | array _ _ _ | object _ _ _ => exact hsome hread

theorem Keeps.within {f : Field σ} {get : ρ → σ} {set : σ → ρ → ρ} {depth : Nat} {a : f.α}
    (h : f.Keeps (get blank) depth a) : (f.within get set).Keeps blank depth a := h

theorem Stable.within {f : Field σ} {get : ρ → σ} {set : σ → ρ → ρ}
    (h : f.Stable (get blank) levels) : (f.within get set).Stable blank levels :=
  ⟨h.before, h.read⟩

/-- A required field is always written. -/
theorem Keeps.encode_ne_none {f : Field ρ} {depth : Nat} {a : f.α} (h : f.Keeps blank depth a)
    (hrequired : f.presence = .required) : f.encode a ≠ none := by
  intro hnone
  unfold Keeps at h
  rw [hnone] at h
  exact h.1 hrequired

theorem Keeps.of_encode {f : Field ρ} {depth : Nat} {a : f.α} (h : f.Keeps blank depth a) {v : Value}
    (hv : f.encode a = some v) : v.Fits depth ∧ ∀ origin, f.decode origin (.ofValue v) = .ok a := by
  unfold Keeps at h
  rw [hv] at h
  exact h

end Field

/-! ### Fields side by side -/

/-- Two fields that do not get into each other's way. -/
structure Field.Apart (f g : Field ρ) : Prop where
  key : f.key ≠ g.key
  get : ∀ a r, f.get (g.set a r) = f.get r
  get' : ∀ a r, g.get (f.set a r) = g.get r

@[simp]
theorem Field.apart_iff {f g : Field ρ} : f.Apart g ↔ f.key ≠ g.key ∧
    (∀ a r, f.get (g.set a r) = f.get r) ∧ ∀ a r, g.get (f.set a r) = g.get r :=
  ⟨fun h => ⟨h.key, h.get, h.get'⟩, fun h => ⟨h.1, h.2.1, h.2.2⟩⟩

@[simp]
theorem Layout.lawfulFields_nil : LawfulFields ([] : List (Field ρ)) :=
  ⟨List.nodup_nil, List.forall_mem_nil _, List.forall_mem_nil _⟩

/-- A field joins others that it stands apart from. -/
@[simp]
theorem Layout.lawfulFields_cons_iff {f : Field ρ} {fields : List (Field ρ)} :
    LawfulFields (f :: fields) ↔
      (∀ a r, f.get (f.set a r) = a) ∧ (∀ g ∈ fields, f.Apart g) ∧ LawfulFields fields := by
  constructor
  · intro h
    have hdistinct := h.distinct
    rw [List.map_cons, List.nodup_cons] at hdistinct
    have hlater : ∀ g ∈ fields, g ∈ f :: fields := fun g hg => List.mem_cons_of_mem _ hg
    have hne : ∀ g ∈ fields, f.key ≠ g.key :=
      fun g hg heq => hdistinct.1 (heq ▸ List.mem_map_of_mem hg)
    refine ⟨h.get_set f List.mem_cons_self, ?_, ?_⟩
    · intro g hg
      exact ⟨hne g hg, h.get_set_of_ne f List.mem_cons_self g (hlater g hg) (hne g hg),
        h.get_set_of_ne g (hlater g hg) f List.mem_cons_self (Ne.symm (hne g hg))⟩
    · exact ⟨hdistinct.2, fun g hg => h.get_set g (hlater g hg),
        fun g hg g' hg' => h.get_set_of_ne g (hlater g hg) g' (hlater g' hg')⟩
  · rintro ⟨hget, hapart, h⟩
    refine ⟨?_, List.forall_mem_cons.2 ⟨hget, h.get_set⟩, ?_⟩
    · rw [List.map_cons, List.nodup_cons]
      refine ⟨?_, h.distinct⟩
      intro hin
      obtain ⟨g, hg, hkey⟩ := List.mem_map.1 hin
      exact (hapart g hg).key hkey.symm
    · intro g hg g' hg' hne
      rcases List.mem_cons.1 hg with rfl | hin
      · rcases List.mem_cons.1 hg' with rfl | hin'
        · exact absurd rfl hne
        · exact (hapart g' hin').get
      · rcases List.mem_cons.1 hg' with rfl | hin'
        · exact (hapart g hin).get'
        · exact h.get_set_of_ne g hin g' hin' hne

namespace Layout

/-! ### Records that are read -/

/-- What every field of a record holds comes back. -/
def KeepsAll (blank : ρ) (fields : List (Field ρ)) (depth : Nat) (r : ρ) : Prop :=
  ∀ f ∈ fields, f.Keeps blank depth (f.get r)

section Reading

variable {l : Layout ρ} {blank : ρ} {all fields : List (Field ρ)} {levels depth : Nat}
  {origin : Origin} {p p' : Progress ρ} {record r : ρ}

theorem KeepsAll.set (hl : LawfulFields all) {f : Field ρ} (hf : f ∈ all) {a : f.α}
    (ha : f.Keeps blank depth a) (h : KeepsAll blank all depth r) :
    KeepsAll blank all depth (f.set a r) := by
  intro g hg
  by_cases hkey : g.key = f.key
  · obtain rfl := hl.eq_of_key hg hf hkey
    rw [hl.get_set g hg]
    exact ha
  · rw [hl.get_set_of_ne g hg f hf hkey]
    exact h g hg

theorem KeepsAll.readField (hl : LawfulFields all) (hstable : ∀ f ∈ all, f.Stable blank levels)
    (hdepth : levels ≤ depth) {loose : Bool} {f : Field ρ} (hf : f ∈ all) {d : Document}
    (hd : d.Bounded depth) (h : KeepsAll blank all depth p.record)
    (hread : Layout.readField loose f origin d p = .ok p') : KeepsAll blank all depth p'.record := by
  unfold Layout.readField at hread
  split at hread
  · cases hread
  · obtain ⟨a, ha, hread⟩ := Result.exists_of_bind hread
    cases hread
    exact h.set hl hf ((hstable f hf).read depth origin d a hdepth hd ha)

/-- The members set aside are no fields of the record itself. -/
theorem KeepsAll.readMembers (hl : LawfulFields all) (hstable : ∀ f ∈ all, f.Stable blank levels)
    (hdepth : levels ≤ depth) (hsub : ∀ f ∈ l.fields, f ∈ all)
    {members : List (Except SyntaxError String × Document)}
    (hmembers : ∀ m ∈ members, Document.Bounded depth m.2)
    {aside : List (String × Document)} (h : KeepsAll blank all depth p.record)
    (hread : l.readMembers origin p members = .ok (p', aside)) :
    KeepsAll blank all depth p'.record ∧
      ∀ m ∈ aside, m.2.Bounded depth ∧ field? l.fields m.1 = none := by
  induction members generalizing p aside with
  | nil =>
      cases hread
      exact ⟨h, fun m hm => absurd hm List.not_mem_nil⟩
  | cons m rest ih =>
      obtain ⟨hm, hrest⟩ := List.forall_mem_cons.1 hmembers
      rw [Layout.readMembers] at hread
      obtain ⟨k, -, hread⟩ := Result.exists_of_bind hread
      cases hk : field? l.fields k with
      | some f =>
          rw [hk] at hread
          obtain ⟨q, hq, hread⟩ := Result.exists_of_bind hread
          have hf := hsub f (key_of_field? hk).1
          exact ih hrest (h.readField hl hstable hdepth hf hm hq) hread
      | none =>
          rw [hk] at hread
          dsimp only at hread
          split at hread
          · obtain ⟨-, -, hread⟩ := Result.exists_of_bind hread
            exact ih hrest h hread
          · obtain ⟨-, -, hread⟩ := Result.exists_of_bind hread
            obtain ⟨⟨q, others⟩, hq, hread⟩ := Result.exists_of_bind hread
            cases hread
            obtain ⟨hrecord, hothers⟩ := ih hrest h hq
            exact ⟨hrecord, List.forall_mem_cons.2 ⟨⟨hm, hk⟩, hothers⟩⟩

theorem KeepsAll.readAside (hl : LawfulFields all) (hstable : ∀ f ∈ all, f.Stable blank levels)
    (hdepth : levels ≤ depth) (hsub : ∀ f ∈ fields, f ∈ all) {aside : List (String × Document)}
    (haside : ∀ m ∈ aside, m.2.Bounded depth) (h : KeepsAll blank all depth p.record)
    (hread : Layout.readAside fields p aside = .ok p') : KeepsAll blank all depth p'.record := by
  induction aside generalizing p with
  | nil =>
      cases hread
      exact h
  | cons m rest ih =>
      obtain ⟨hm, hrest⟩ := List.forall_mem_cons.1 haside
      rw [Layout.readAside] at hread
      cases hk : field? fields m.1 with
      | some f =>
          rw [hk] at hread
          obtain ⟨q, hq, hread⟩ := Result.exists_of_bind hread
          have hf := hsub f (key_of_field? hk).1
          exact ih hrest (h.readField hl hstable hdepth hf hm hq) hread
      | none =>
          rw [hk] at hread
          exact ih hrest h hread

theorem KeepsAll.readParts (hl : LawfulFields all) (hstable : ∀ f ∈ all, f.Stable blank levels)
    (hdepth : levels ≤ depth) {parts : List (List (Field ρ))} (hsub : ∀ f ∈ parts.flatten, f ∈ all)
    {aside : List (String × Document)} (haside : ∀ m ∈ aside, m.2.Bounded depth)
    (h : KeepsAll blank all depth record) (hread : Layout.readParts record aside parts = .ok r) :
    KeepsAll blank all depth r := by
  induction parts generalizing record with
  | nil =>
      cases hread
      exact h
  | cons fields rest ih =>
      rw [List.flatten_cons, List.forall_mem_append] at hsub
      rw [Layout.readParts] at hread
      obtain ⟨p, hp, hread⟩ := Result.exists_of_bind hread
      obtain ⟨-, -, hread⟩ := Result.exists_of_bind hread
      have hpart : KeepsAll blank all depth p.record := h.readAside hl hstable hdepth hsub.1 haside hp
      exact ih hsub.2 hpart hread

theorem KeepsAll.readPlaces (hl : LawfulFields all) (hstable : ∀ f ∈ all, f.Stable blank levels)
    (hdepth : levels ≤ depth) (hsub : ∀ f ∈ fields, f ∈ all) {items left : List Document}
    (hitems : ∀ d ∈ items, d.Bounded depth) {ending : Option Fault} {place : Nat}
    (h : KeepsAll blank all depth record)
    (hread : l.readPlaces origin ending record place fields items = .ok (r, left)) :
    KeepsAll blank all depth r := by
  induction fields generalizing items place record with
  | nil =>
      cases hread
      exact h
  | cons f fields ih =>
      obtain ⟨hf, hfields⟩ := List.forall_mem_cons.1 hsub
      cases items with
      | nil => exact ih hfields hitems h (readPlaces_of_cons_nil hread)
      | cons d items =>
          obtain ⟨hd, hitems⟩ := List.forall_mem_cons.1 hitems
          rw [Layout.readPlaces] at hread
          obtain ⟨a, ha, hread⟩ := Result.exists_of_bind hread
          exact ih hfields hitems
            (h.set hl hf ((hstable f hf).read depth origin d a hdepth hd ha)) hread

/-- A record that is read holds what comes back in every field, wherever it keeps other members. -/
theorem keepsAll_of_decode (hl : LawfulFields l.allFields)
    (hothers : ∀ keep, l.remainder = some keep → ∀ f ∈ l.allFields, ∀ d r,
      f.get (keep.set d r) = f.get r)
    (hstable : ∀ f ∈ l.allFields, f.Stable l.blank levels) (hdepth : levels ≤ depth) {d : Document}
    (hd : d.Bounded (depth + 1)) (h : l.decode origin d = .ok r) :
    KeepsAll l.blank l.allFields depth r := by
  have hblank : KeepsAll l.blank l.allFields depth l.blank :=
    fun f hf => (hstable f hf).before depth hdepth
  have hown : ∀ f ∈ l.fields, f ∈ l.allFields := fun f hf => List.mem_append_left _ hf
  have hparts : ∀ f ∈ l.parts.flatten, f ∈ l.allFields := fun f hf => List.mem_append_right _ hf
  cases hd with
  | object ending hmembers =>
      change l.readObject origin _ ending = _ at h
      unfold readObject at h
      obtain ⟨⟨p, aside⟩, hread, h⟩ := Result.exists_of_bind h
      obtain ⟨-, -, h⟩ := Result.exists_of_bind h
      obtain ⟨-, -, h⟩ := Result.exists_of_bind h
      obtain ⟨record, hrecord, h⟩ := Result.exists_of_bind h
      obtain ⟨hp, haside⟩ := KeepsAll.readMembers hl hstable hdepth hown hmembers hblank hread
      have hall := hp.readParts hl hstable hdepth hparts (fun m hm => (haside m hm).1) hrecord
      unfold readOthers at h
      cases hremainder : l.remainder with
      | none =>
          rw [hremainder] at h
          cases h
          exact hall
      | some keep =>
          rw [hremainder] at h
          obtain ⟨entries, -, h⟩ := Result.exists_of_bind h
          cases h
          intro f hf
          rw [hothers keep hremainder f hf]
          exact hall f hf
  | array ending hitems =>
      rw [decode] at h
      split at h
      · exact absurd h mismatch_ne_ok
      · obtain ⟨⟨record, left⟩, hplaces, h⟩ := Result.exists_of_bind h
        obtain ⟨-, -, h⟩ := Result.exists_of_bind h
        cases h
        exact hblank.readPlaces hl hstable hdepth hown hitems hplaces
  | objectTooDeep => cases h
  | arrayTooDeep =>
      rw [decode] at h
      split at h
      · exact absurd h mismatch_ne_ok
      · cases h
  | null | bool _ | number _ | string _ | broken _ _ => exact absurd h mismatch_ne_ok

end Reading

/-! ### Records that are read again -/

section Writing

variable {l : Layout ρ} {fields : List (Field ρ)} {depth : Nat} {origin : Origin} {record r : ρ}
  {members : List (String × Value)}

/-- Fields that can be read from their members are, and are seen. -/
theorem exists_readFields_of_forall {loose : Bool} {p : Progress ρ}
    (hreads : ∀ f ∈ fields, ∀ v, (f.key, v) ∈ members → ∃ a, f.decode origin (.ofValue v) = .ok a)
    (hkeys : (members.map Prod.fst).Nodup) (hseen : ∀ m ∈ members, m.1 ∉ p.seen) :
    ∃ p', readFields loose fields origin p members = .ok p' ∧
      ∀ f ∈ fields, (f.key ∈ p.seen ∨ f.key ∈ members.map Prod.fst) → f.key ∈ p'.seen := by
  induction members generalizing p with
  | nil => exact ⟨p, rfl, fun f _ h => h.resolve_right List.not_mem_nil⟩
  | cons m rest ih =>
      obtain ⟨k, v⟩ := m
      rw [List.map_cons, List.nodup_cons] at hkeys
      obtain ⟨hk, hunseen⟩ := List.forall_mem_cons.1 hseen
      have hrest : ∀ f ∈ fields, ∀ v, (f.key, v) ∈ rest →
          ∃ a, f.decode origin (.ofValue v) = .ok a :=
        fun f hf v hv => hreads f hf v (List.mem_cons_of_mem _ hv)
      rw [readFields]
      cases hfield : field? fields k with
      | none =>
          obtain ⟨p', hp', hlater⟩ := ih hrest hkeys.2 hunseen
          refine ⟨p', hp', ?_⟩
          intro f hf hin
          refine hlater f hf (hin.imp_right (fun hin => ?_))
          exact (List.mem_cons.1 hin).resolve_left (field?_eq_none_iff.1 hfield f hf)
      | some g =>
          obtain ⟨hg, rfl⟩ := key_of_field? hfield
          obtain ⟨a, ha⟩ := hreads g hg v List.mem_cons_self
          have hread : readField loose g origin (.ofValue v) p =
              .ok ⟨g.set a p.record, g.key :: p.seen⟩ := by
            unfold readField
            rw [if_neg (by simp [hk])]
            change (g.decode origin (.ofValue v) >>= fun a => _) = _
            rw [ha]
            rfl
          have hseen' : ∀ m ∈ rest, m.1 ∉ g.key :: p.seen := by
            intro m' hm hin
            rcases List.mem_cons.1 hin with heq | hin
            · exact hkeys.1 (heq ▸ List.mem_map.2 ⟨m', hm, rfl⟩)
            · exact hunseen m' hm hin
          obtain ⟨p', hp', hlater⟩ :=
            @ih ⟨g.set a p.record, g.key :: p.seen⟩ hrest hkeys.2 hseen'
          refine ⟨p', ?_, ?_⟩
          · dsimp only
            rw [hread]
            exact hp'
          · intro f hf hin
            refine hlater f hf ?_
            rcases hin with hin | hin
            · exact Or.inl (List.mem_cons_of_mem _ hin)
            · rcases List.mem_cons.1 hin with heq | hin
              · exact Or.inl (heq ▸ List.mem_cons_self)
              · exact Or.inr hin

theorem demand_of_forall {seen : List String}
    (h : ∀ f ∈ fields, f.presence = .required → f.key ∈ seen) : demand fields seen = .ok () := by
  have hnone : fields.find? (fun f => decide (f.presence = .required) && !seen.contains f.key) =
      none := by
    refine List.find?_eq_none.2 ?_
    intro f hf
    simp only [Bool.and_eq_true, decide_eq_true_eq, not_and]
    intro hrequired
    simp [h f hf hrequired]
  unfold demand
  rw [hnone]

theorem exists_readParts_of_forall {parts : List (List (Field ρ))}
    (hreads : ∀ f ∈ parts.flatten, ∀ v, (f.key, v) ∈ members →
      ∃ a, f.decode .aside (.ofValue v) = .ok a)
    (hrequired : ∀ f ∈ parts.flatten, f.presence = .required → f.key ∈ members.map Prod.fst)
    (hkeys : (members.map Prod.fst).Nodup) :
    ∃ r, readParts record (members.map (fun m => (m.1, .ofValue m.2))) parts = .ok r := by
  induction parts generalizing record with
  | nil => exact ⟨record, rfl⟩
  | cons fields rest ih =>
      rw [List.flatten_cons, List.forall_mem_append] at hreads hrequired
      obtain ⟨p, hp, hseen⟩ := @exists_readFields_of_forall _ fields .aside members false ⟨record, []⟩
        hreads.1 hkeys (fun m _ => List.not_mem_nil)
      have hdemand : demand fields p.seen = .ok () :=
        demand_of_forall (fun f hf h => hseen f hf (Or.inr (hrequired.1 f hf h)))
      obtain ⟨r, hr⟩ := @ih p.record hreads.2 hrequired.2
      refine ⟨r, ?_⟩
      rw [readParts, readAside_map, hp]
      change (demand fields p.seen >>= fun _ => _) = _
      rw [hdemand]
      exact hr

/-- What is written for a record whose fields come back is an object that it may be read from. -/
theorem exists_decode_encode (hl : LawfulFields l.allFields) (hremainder : l.remainder = none)
    (h : KeepsAll l.blank l.allFields depth r) :
    ∃ r', l.decode origin (.ofValue (l.encode r)) = .ok r' := by
  obtain ⟨written, hwritten⟩ : ∃ written, written = Dict.ofList (members l.allFields r) := ⟨_, rfl⟩
  have hget : ∀ f ∈ l.allFields, written.get? f.key = f.encode (f.get r) := by
    intro f hf
    rw [hwritten]
    exact get?_members hl.distinct hf r
  have hreads : ∀ f ∈ l.allFields, ∀ origin v, (f.key, v) ∈ written.entries →
      ∃ a, f.decode origin (.ofValue v) = .ok a := by
    intro f hf origin v hv
    have hv := (hget f hf).symm.trans (Dict.get?_eq_some_iff.2 hv)
    exact ⟨f.get r, ((h f hf).of_encode hv).2 origin⟩
  have hrequired : ∀ f ∈ l.allFields, f.presence = .required →
      ∃ v, (f.key, v) ∈ written.entries := by
    intro f hf hpresence
    obtain ⟨v, hv⟩ := Option.ne_none_iff_exists'.1 ((h f hf).encode_ne_none hpresence)
    exact ⟨v, Dict.get?_eq_some_iff.1 ((hget f hf).trans hv)⟩
  have hown : ∀ f ∈ l.fields, f ∈ l.allFields := fun f hf => List.mem_append_left _ hf
  have hparts : ∀ f ∈ l.parts.flatten, f ∈ l.allFields := fun f hf => List.mem_append_right _ hf
  obtain ⟨p, hp, hseen⟩ := @exists_readFields_of_forall _ l.fields origin written.entries l.loose
    ⟨l.blank, []⟩ (fun f hf => hreads f (hown f hf) origin) written.nodup_keys
    (fun m _ => List.not_mem_nil)
  have hdemand : demand l.fields p.seen = .ok () := by
    refine demand_of_forall (fun f hf hpresence => hseen f hf (Or.inr ?_))
    obtain ⟨v, hv⟩ := hrequired f (hown f hf) hpresence
    exact List.mem_map.2 ⟨_, hv, rfl⟩
  obtain ⟨r', hr'⟩ : ∃ r', readParts p.record
      (if l.isPlain then [] else l.setAside written.entries) l.parts = .ok r' := by
    cases hplain : l.isPlain with
    | true =>
        rw [parts_of_isPlain hplain]
        exact ⟨p.record, rfl⟩
    | false =>
        rw [if_neg (by decide)]
        refine exists_readParts_of_forall ?_ ?_ ?_
        · intro f hf v hv
          exact hreads f (hparts f hf) .aside v (List.mem_of_mem_filter hv)
        · intro f hf hpresence
          obtain ⟨v, hv⟩ := hrequired f (hparts f hf) hpresence
          have hdistinct := hl.distinct
          unfold allFields at hdistinct
          rw [List.map_append, List.nodup_append] at hdistinct
          have hother : field? l.fields f.key = none := by
            refine field?_eq_none_iff.2 ?_
            intro g hg
            exact hdistinct.2.2 g.key (List.mem_map_of_mem hg) f.key (List.mem_map_of_mem hf)
          refine List.mem_map.2 ⟨_, List.mem_filter.2 ⟨hv, ?_⟩, rfl⟩
          simp [hother]
        · exact written.nodup_keys.sublist (List.filter_sublist.map Prod.fst)
  refine ⟨r', ?_⟩
  rw [encode_eq hremainder, ← hwritten]
  change l.readObject origin (Document.ofMembers written.entries) none = _
  unfold readObject readOthers
  rw [readMembers_ofMembers, hp, hremainder]
  change (ended none >>= fun _ => demand l.fields p.seen >>= fun _ =>
    readParts p.record (if l.isPlain then [] else l.setAside written.entries) l.parts >>=
      fun r => .ok r) = _
  rw [hdemand, hr']
  rfl

/-- A record is what its fields hold. -/
def IsDetermined (l : Layout ρ) : Prop :=
  ∀ r, l.allFields.foldl (fun s f => f.set (f.get r) s) l.blank = r

theorem IsDetermined.ext {r' : ρ} (hl : l.IsDetermined) (h : ∀ f ∈ l.allFields, f.get r' = f.get r) :
    r' = r := by
  have hfold : ∀ fields : List (Field ρ), (∀ f ∈ fields, f.get r' = f.get r) → ∀ s,
      fields.foldl (fun s f => f.set (f.get r') s) s = fields.foldl (fun s f => f.set (f.get r) s) s := by
    intro fields hfields
    induction fields with
    | nil => exact fun s => rfl
    | cons f fields ih =>
        obtain ⟨hf, hfields⟩ := List.forall_mem_cons.1 hfields
        intro s
        rw [List.foldl_cons, List.foldl_cons, hf]
        exact ih hfields _
  rw [← hl r', hfold l.allFields h l.blank, hl r]

theorem keeps_of_keepsAll (hl : LawfulFields l.allFields) (hremainder : l.remainder = none)
    (hdetermined : l.IsDetermined) (h : KeepsAll l.blank l.allFields depth r) :
    l.codec.Keeps (depth + 1) r where
  fits := by
    change (l.encode r).Fits (depth + 1)
    rw [encode_eq hremainder, ← Value.ofMembers_eq]
    apply Value.fits_ofMembers (Nat.succ_pos depth)
    intro m hm
    obtain ⟨f, hf, hm⟩ := List.mem_filterMap.1 hm
    obtain ⟨v, hv, rfl⟩ := Option.map_eq_some_iff.1 hm
    exact ((h f hf).of_encode hv).1
  reads := by
    intro origin
    obtain ⟨r', hr'⟩ := @exists_decode_encode _ l depth origin r hl hremainder h
    have hfields : ∀ f ∈ l.allFields, f.get r' = f.get r := by
      intro f hf
      have hholds := holds_of_decode hl hremainder hf hr'
      rw [encode_eq hremainder, Value.ofDict, membersOf, Dict.ofList_entries,
        get?_members hl.distinct hf r] at hholds
      cases hv : f.encode (f.get r) with
      | none =>
          have hkeeps := h f hf
          unfold Field.Keeps at hkeeps
          rw [hv] at hholds hkeeps
          exact hholds.trans hkeeps.2.symm
      | some v =>
          rw [hv] at hholds
          obtain ⟨origin, hholds⟩ := hholds
          exact Except.ok.inj (hholds.symm.trans (((h f hf).of_encode hv).2 origin))
    change l.decode origin (.ofValue (l.encode r)) = .ok r
    rw [hr', hdetermined.ext hfields]

end Writing

/-- A record is stable if its fields are. -/
theorem stable_codec {l : Layout ρ} (hl : LawfulFields l.allFields)
    (hremainder : l.remainder = none) (hdetermined : l.IsDetermined) {levels : Nat}
    (h : ∀ f ∈ l.allFields, f.Stable l.blank levels) : l.codec.Stable (levels + 1) := by
  intro depth origin d r hdepth hd hread
  obtain ⟨depth, rfl⟩ := Nat.exists_eq_add_of_le' (Nat.le_trans (Nat.le_add_left 1 levels) hdepth)
  have hothers : ∀ keep, l.remainder = some keep → ∀ f ∈ l.allFields, ∀ d r,
      f.get (keep.set d r) = f.get r := fun keep hkeep => absurd (hremainder.symm.trans hkeep) nofun
  have hall := keepsAll_of_decode hl hothers h (Nat.le_of_succ_le_succ hdepth) hd hread
  exact keeps_of_keepsAll hl hremainder hdetermined hall

/-- The record with all defaults comes back. -/
theorem keeps_blank {l : Layout ρ} (hl : LawfulFields l.allFields)
    (hremainder : l.remainder = none) (hdetermined : l.IsDetermined) {levels : Nat}
    (h : ∀ f ∈ l.allFields, f.Stable l.blank levels) {depth : Nat} (hdepth : levels + 1 ≤ depth) :
    l.codec.Keeps depth l.blank := by
  obtain ⟨depth, rfl⟩ := Nat.exists_eq_add_of_le' (Nat.le_trans (Nat.le_add_left 1 levels) hdepth)
  exact keeps_of_keepsAll hl hremainder hdetermined
    (fun f hf => (h f hf).before depth (Nat.le_of_succ_le_succ hdepth))

end Layout

/-! ### Texts -/

/-- What is read from a text is taken out of its document, which is nested only so deep. -/
theorem decode_of_decodeText {decode : Decoder α} {s : Source} {a : α}
    (h : decodeText decode s = .ok a) :
    ∃ d, Document.Bounded depthLimit d ∧ decode .text d = .ok a := by
  obtain ⟨b, hb, h⟩ := Result.exists_of_bind h
  split at h
  · cases h
  · cases h
    exact ⟨_, bounded_readText s, hb⟩

/-- What is read from a text is read again from the text that it is written as, if the binary64 numbers
in it survive. -/
theorem Codec.Stable.decodeText_render {c : Codec α} (hc : c.Stable depthLimit) {s : Source} {a : α}
    (h : decodeText c.decode s = .ok a) (hsurvives : (c.encode a).Survives) :
    decodeText c.decode (.ofString (c.encode a).render) = .ok a := by
  obtain ⟨d, hd, ha⟩ := decode_of_decodeText h
  have hkeeps := hc depthLimit .text d a (Nat.le_refl _) hd ha
  unfold decodeText
  rw [readText_render hkeeps.fits hsurvives]
  dsimp only
  rw [hkeeps.reads .text]
  rfl

end Fleet.Json

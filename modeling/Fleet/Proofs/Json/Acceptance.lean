import Fleet.Proofs.Json.Layout

/-! # What a record can be read from

`Layout.exists_decode_iff` says which values a record is read from: objects that give each of its
fields once at most and then with a value that the field is read from, and, if the record has no
parts, lists that are no longer than the fields.  It does not matter where the value comes from, nor
in which order the parts are read. -/

namespace Fleet.Json

variable {ρ : Type}

/-! ### Fields -/

namespace Field

/-- A value that a field is read from. -/
def Reads (f : Field ρ) (v : Value) : Prop := ∃ a, f.decode .value (.ofValue v) = .ok a

/-- Members that a field is read from: they give it once at most. -/
structure ReadsMembers (f : Field ρ) (members : List (String × Value)) : Prop where
  once : members.countP (fun m => m.1 == f.key) ≤ 1
  reads : ∀ v, (f.key, v) ∈ members → f.Reads v

/-- Members that a field is read from after some keys were seen: if it is one of them, they do not
give it again. -/
structure ReadsAfter (f : Field ρ) (seen : List String) (members : List (String × Value)) :
    Prop where
  given : f.ReadsMembers members
  unseen : f.key ∈ seen → ∀ m ∈ members, m.1 ≠ f.key

/-- A field that may be left out, and is read from the same values wherever they come from. -/
structure Steady (f : Field ρ) : Prop where
  presence : f.presence = .defaulted
  reads : ∀ origin v, (∃ a, f.decode origin (.ofValue v) = .ok a) ↔ f.Reads v

variable {f : Field ρ} {members : List (String × Value)} {key : String} {v : Value}

theorem countP_key_eq_zero_iff :
    members.countP (fun m => m.1 == key) = 0 ↔ ∀ m ∈ members, m.1 ≠ key := by
  simp [List.countP_eq_zero]

theorem readsMembers_of_forall_ne (h : ∀ m ∈ members, m.1 ≠ f.key) : f.ReadsMembers members := by
  have hzero := countP_key_eq_zero_iff.2 h
  refine ⟨by omega, ?_⟩
  intro v hv
  exact absurd rfl (h _ hv)

theorem readsMembers_cons_of_ne (h : key ≠ f.key) :
    f.ReadsMembers ((key, v) :: members) ↔ f.ReadsMembers members := by
  have hcount : ((key, v) :: members).countP (fun m => m.1 == f.key) =
      members.countP (fun m => m.1 == f.key) := List.countP_cons_of_neg (by simpa using h)
  have hmem : ∀ w, (f.key, w) ∈ (key, v) :: members ↔ (f.key, w) ∈ members := by
    intro w
    simp [Ne.symm h]
  constructor
  · intro hreads
    exact ⟨hcount ▸ hreads.once, fun w hw => hreads.reads w ((hmem w).2 hw)⟩
  · intro hreads
    exact ⟨hcount ▸ hreads.once, fun w hw => hreads.reads w ((hmem w).1 hw)⟩

theorem readsMembers_cons_key :
    f.ReadsMembers ((f.key, v) :: members) ↔ f.Reads v ∧ ∀ m ∈ members, m.1 ≠ f.key := by
  have hcount : ((f.key, v) :: members).countP (fun m => m.1 == f.key) =
      members.countP (fun m => m.1 == f.key) + 1 := List.countP_cons_of_pos (by simp)
  constructor
  · intro hreads
    have honce := hreads.once
    rw [hcount] at honce
    exact ⟨hreads.reads v List.mem_cons_self, countP_key_eq_zero_iff.1 (by omega)⟩
  · rintro ⟨hv, hothers⟩
    have hzero := countP_key_eq_zero_iff.2 hothers
    refine ⟨by omega, ?_⟩
    intro w hw
    rcases List.mem_cons.1 hw with heq | hw
    · cases heq
      exact hv
    · exact absurd rfl (hothers _ hw)

theorem readsAfter_nil {seen : List String} : f.ReadsAfter seen [] :=
  ⟨readsMembers_of_forall_ne (fun _ hm => absurd hm List.not_mem_nil),
    fun _ _ hm => absurd hm List.not_mem_nil⟩

theorem readsAfter_nil_iff : f.ReadsAfter [] members ↔ f.ReadsMembers members :=
  ⟨fun h => h.given, fun h => ⟨h, fun hin => absurd hin List.not_mem_nil⟩⟩

theorem readsAfter_seen_of_ne {seen : List String} (h : key ≠ f.key) :
    f.ReadsAfter (key :: seen) members ↔ f.ReadsAfter seen members := by
  have hseen : f.key ∈ key :: seen ↔ f.key ∈ seen := by simp [Ne.symm h]
  constructor
  · intro hreads
    exact ⟨hreads.given, fun hin => hreads.unseen (hseen.2 hin)⟩
  · intro hreads
    exact ⟨hreads.given, fun hin => hreads.unseen (hseen.1 hin)⟩

/-- A member is seen before those that follow it. -/
theorem readsAfter_cons {seen : List String} : f.ReadsAfter seen ((key, v) :: members) ↔
    f.ReadsAfter (key :: seen) members ∧ (f.key = key → f.Reads v ∧ f.key ∉ seen) := by
  by_cases hkey : f.key = key
  · subst hkey
    constructor
    · intro h
      obtain ⟨hv, hothers⟩ := readsMembers_cons_key.1 h.given
      refine ⟨⟨readsMembers_of_forall_ne hothers, fun _ => hothers⟩, fun _ => ⟨hv, ?_⟩⟩
      intro hin
      exact h.unseen hin _ List.mem_cons_self rfl
    · rintro ⟨h, hfirst⟩
      obtain ⟨hv, hseen⟩ := hfirst rfl
      have hothers := h.unseen List.mem_cons_self
      exact ⟨readsMembers_cons_key.2 ⟨hv, hothers⟩, fun hin => absurd hin hseen⟩
  · rw [readsAfter_seen_of_ne (Ne.symm hkey)]
    constructor
    · intro h
      refine ⟨⟨(readsMembers_cons_of_ne (Ne.symm hkey)).1 h.given, ?_⟩,
        fun heq => absurd heq hkey⟩
      intro hin m hm
      exact h.unseen hin m (List.mem_cons_of_mem _ hm)
    · rintro ⟨h, -⟩
      refine ⟨(readsMembers_cons_of_ne (Ne.symm hkey)).2 h.given, ?_⟩
      intro hin
      exact List.forall_mem_cons.2 ⟨Ne.symm hkey, h.unseen hin⟩

/-- Members that do not give a field do not matter to it. -/
theorem readsMembers_filter {keep : String × Value → Bool}
    (h : ∀ m ∈ members, m.1 = f.key → keep m = true) :
    f.ReadsMembers (members.filter keep) ↔ f.ReadsMembers members := by
  have hcount : (members.filter keep).countP (fun m => m.1 == f.key) =
      members.countP (fun m => m.1 == f.key) := by
    rw [List.countP_filter]
    refine List.countP_congr ?_
    intro m hm
    simp only [Bool.and_eq_true, beq_iff_eq]
    exact ⟨fun hkey => hkey.1, fun hkey => ⟨hkey, h m hm hkey⟩⟩
  have hmem : ∀ w, (f.key, w) ∈ members.filter keep ↔ (f.key, w) ∈ members := by
    intro w
    rw [List.mem_filter]
    exact ⟨fun hw => hw.1, fun hw => ⟨hw, h _ hw rfl⟩⟩
  constructor
  · intro hreads
    exact ⟨hcount ▸ hreads.once, fun w hw => hreads.reads w ((hmem w).2 hw)⟩
  · intro hreads
    exact ⟨hcount.symm ▸ hreads.once, fun w hw => hreads.reads w ((hmem w).1 hw)⟩

theorem readsMembers_entries {d : Dict Value} :
    f.ReadsMembers d.entries ↔ ∀ v, d.get? f.key = some v → f.Reads v := by
  constructor
  · intro h v hv
    exact h.reads v (Dict.get?_eq_some_iff.1 hv)
  · intro h
    exact ⟨d.countP_key_le_one f.key, fun v hv => h v (Dict.get?_eq_some_iff.2 hv)⟩

end Field

namespace Layout

/-! ### Objects -/

theorem readField_eq_ok_iff {f : Field ρ} {origin : Origin} {d : Document} {p p' : Progress ρ} :
    readField false f origin d p = .ok p' ↔ f.key ∉ p.seen ∧
      ∃ a, f.decode origin d = .ok a ∧ p' = ⟨f.set a p.record, f.key :: p.seen⟩ := by
  unfold readField
  by_cases hseen : f.key ∈ p.seen
  · have hthrows : (!false && p.seen.contains f.key) = true := by simp [hseen]
    rw [if_pos hthrows]
    constructor
    · intro h
      cases h
    · intro h
      exact absurd hseen h.1
  · have hreads : ¬ (!false && p.seen.contains f.key) = true := by simp [hseen]
    rw [if_neg hreads]
    constructor
    · intro h
      obtain ⟨a, ha, h⟩ := Result.exists_of_bind h
      cases h
      exact ⟨hseen, a, ha, rfl⟩
    · rintro ⟨-, a, ha, rfl⟩
      change (f.decode origin d >>= fun a => _) = _
      rw [ha]
      rfl

/-- Fields are read from members that each of them is read from. -/
theorem exists_readFields_iff {fields : List (Field ρ)} (hsteady : ∀ f ∈ fields, f.Steady)
    (hdistinct : (fields.map (·.key)).Nodup) {origin : Origin} {members : List (String × Value)}
    {p : Progress ρ} :
    (∃ p', readFields false fields origin p members = .ok p') ↔
      ∀ f ∈ fields, f.ReadsAfter p.seen members := by
  induction members generalizing p with
  | nil => exact ⟨fun _ _ _ => Field.readsAfter_nil, fun _ => ⟨p, rfl⟩⟩
  | cons m rest ih =>
      obtain ⟨k, v⟩ := m
      rw [readFields]
      cases hk : field? fields k with
      | none =>
          dsimp only
          rw [ih]
          apply forall₂_congr
          intro f hf
          have hne := field?_eq_none_iff.1 hk f hf
          rw [Field.readsAfter_cons, Field.readsAfter_seen_of_ne (Ne.symm hne)]
          simp [hne]
      | some g =>
          obtain ⟨hg, rfl⟩ := key_of_field? hk
          have heq : ∀ f ∈ fields, f.key = g.key → f = g := by
            intro f hf hkey
            have hfound := field?_key hdistinct hf
            rw [hkey, hk] at hfound
            exact (Option.some.inj hfound).symm
          dsimp only
          rw [Result.exists_bind_iff]
          constructor
          · rintro ⟨p', hp', hrest⟩
            obtain ⟨hseen, a, ha, rfl⟩ := readField_eq_ok_iff.1 hp'
            intro f hf
            refine Field.readsAfter_cons.2 ⟨ih.1 hrest f hf, ?_⟩
            intro hkey
            obtain rfl := heq f hf hkey
            exact ⟨((hsteady f hf).reads origin v).1 ⟨a, ha⟩, hseen⟩
          · intro h
            obtain ⟨hv, hseen⟩ := (Field.readsAfter_cons.1 (h g hg)).2 rfl
            obtain ⟨a, ha⟩ := ((hsteady g hg).reads origin v).2 hv
            refine ⟨_, readField_eq_ok_iff.2 ⟨hseen, a, ha, rfl⟩, ih.2 ?_⟩
            intro f hf
            exact (Field.readsAfter_cons.1 (h f hf)).1

/-- Before any member was seen. -/
theorem exists_readFields_blank_iff {fields : List (Field ρ)} (hsteady : ∀ f ∈ fields, f.Steady)
    (hdistinct : (fields.map (·.key)).Nodup) {origin : Origin} {members : List (String × Value)}
    {record : ρ} :
    (∃ p, readFields false fields origin ⟨record, []⟩ members = .ok p) ↔
      ∀ f ∈ fields, f.ReadsMembers members := by
  rw [exists_readFields_iff hsteady hdistinct]
  exact forall₂_congr (fun _ _ => Field.readsAfter_nil_iff)

theorem demand_of_defaulted {fields : List (Field ρ)} (h : ∀ f ∈ fields, f.presence = .defaulted)
    (seen : List String) : demand fields seen = .ok () := by
  have hnone : fields.find? (fun f => decide (f.presence = .required) && !seen.contains f.key) =
      none := by
    refine List.find?_eq_none.2 ?_
    intro f hf
    simp [h f hf]
  unfold demand
  rw [hnone]

theorem exists_readParts_iff {parts : List (List (Field ρ))}
    (hsteady : ∀ f ∈ parts.flatten, f.Steady) (hdistinct : (parts.flatten.map (·.key)).Nodup)
    {members : List (String × Value)} {record : ρ} :
    (∃ r, readParts record (members.map (fun m => (m.1, .ofValue m.2))) parts = .ok r) ↔
      ∀ f ∈ parts.flatten, f.ReadsMembers members := by
  induction parts generalizing record with
  | nil => exact ⟨fun _ f hf => absurd hf List.not_mem_nil, fun _ => ⟨record, rfl⟩⟩
  | cons fields rest ih =>
      rw [List.flatten_cons] at hsteady hdistinct ⊢
      rw [List.map_append, List.nodup_append] at hdistinct
      rw [List.forall_mem_append] at hsteady ⊢
      rw [readParts, readAside_map, Result.exists_bind_iff,
        ← @exists_readFields_blank_iff _ fields hsteady.1 hdistinct.1 .aside members record]
      constructor
      · rintro ⟨p, hp, hrest⟩
        obtain ⟨-, -, hrest⟩ := Result.exists_bind_iff.1 hrest
        exact ⟨⟨p, hp⟩, (ih hsteady.2 hdistinct.2.1).1 hrest⟩
      · rintro ⟨⟨p, hp⟩, hrest⟩
        refine ⟨p, hp, Result.exists_bind_iff.2 ⟨(), ?_, (ih hsteady.2 hdistinct.2.1).2 hrest⟩⟩
        exact demand_of_defaulted (fun f hf => (hsteady.1 f hf).presence) p.seen

/-- The members that are set aside give the fields of the parts just as all members do. -/
theorem exists_readParts_aside_iff {l : Layout ρ} (hsteady : ∀ f ∈ l.parts.flatten, f.Steady)
    (hdistinct : (l.allFields.map (·.key)).Nodup) {members : List (String × Value)} {record : ρ} :
    (∃ r, readParts record (if l.isPlain then [] else l.setAside members) l.parts = .ok r) ↔
      ∀ f ∈ l.parts.flatten, f.ReadsMembers members := by
  unfold allFields at hdistinct
  rw [List.map_append, List.nodup_append] at hdistinct
  cases hplain : l.isPlain with
  | true =>
      rw [parts_of_isPlain hplain]
      exact ⟨fun _ f hf => absurd hf List.not_mem_nil, fun _ => ⟨record, rfl⟩⟩
  | false =>
      rw [if_neg (by decide), setAside, exists_readParts_iff hsteady hdistinct.2.1]
      apply forall₂_congr
      intro f hf
      apply Field.readsMembers_filter
      intro m _ hm
      rw [Option.isNone_iff_eq_none, field?_eq_none_iff]
      intro g hg
      exact hm ▸ hdistinct.2.2 g.key (List.mem_map_of_mem hg) f.key (List.mem_map_of_mem hf)

theorem exists_readObject_iff {l : Layout ρ} (hsteady : ∀ f ∈ l.allFields, f.Steady)
    (hdistinct : (l.allFields.map (·.key)).Nodup) (hremainder : l.remainder = none)
    (hloose : l.loose = false) {origin : Origin} {members : List (String × Value)} :
    (∃ r, l.readObject origin (Document.ofMembers members) none = .ok r) ↔
      ∀ f ∈ l.allFields, f.ReadsMembers members := by
  have hown : (l.fields.map (·.key)).Nodup := by
    unfold allFields at hdistinct
    rw [List.map_append] at hdistinct
    exact (List.nodup_append.1 hdistinct).1
  unfold allFields at hsteady ⊢
  rw [List.forall_mem_append] at hsteady ⊢
  have hdemand : ∀ p : Progress ρ, demand l.fields p.seen = .ok () := fun p =>
    demand_of_defaulted (fun f hf => (hsteady.1 f hf).presence) p.seen
  unfold readObject readOthers
  rw [readMembers_ofMembers, hremainder, hloose,
    ← @exists_readFields_blank_iff _ l.fields hsteady.1 hown origin members l.blank]
  constructor
  · rintro ⟨r, h⟩
    obtain ⟨⟨p, aside⟩, hmembers, h⟩ := Result.exists_of_bind h
    obtain ⟨p', hp, heq⟩ := Result.exists_of_map hmembers
    obtain ⟨rfl, rfl⟩ := Prod.mk.inj heq
    obtain ⟨-, -, h⟩ := Result.exists_of_bind h
    obtain ⟨-, -, h⟩ := Result.exists_of_bind h
    obtain ⟨record, hrecord, -⟩ := Result.exists_of_bind h
    exact ⟨⟨p', hp⟩, (exists_readParts_aside_iff hsteady.2 hdistinct).1 ⟨record, hrecord⟩⟩
  · rintro ⟨⟨p, hp⟩, hmembers⟩
    obtain ⟨r, hr⟩ :=
      (@exists_readParts_aside_iff _ l hsteady.2 hdistinct members p.record).2 hmembers
    refine ⟨r, ?_⟩
    rw [hp]
    change (ended none >>= fun _ => demand l.fields p.seen >>= fun _ =>
      readParts p.record (if l.isPlain then [] else l.setAside members) l.parts >>= fun r => .ok r) =
        .ok r
    rw [hdemand, hr]
    rfl

/-! ### Lists -/

/-- The items that are left over, and when the others are read. -/
theorem exists_readPlaces_iff {l : Layout ρ} {fields : List (Field ρ)}
    (hsteady : ∀ f ∈ fields, f.Steady) {origin : Origin} {items : List Value} {place : Nat}
    {record : ρ} {left : List Document} :
    (∃ r, l.readPlaces origin none record place fields (Document.ofItems items) = .ok (r, left)) ↔
      (∀ e ∈ fields.zip items, e.1.Reads e.2) ∧
        left = Document.ofItems (items.drop fields.length) := by
  induction fields generalizing items place record with
  | nil =>
      rw [readPlaces, List.zip_nil_left, List.length_nil, List.drop_zero]
      constructor
      · rintro ⟨r, h⟩
        cases h
        exact ⟨fun e he => absurd he List.not_mem_nil, rfl⟩
      · rintro ⟨-, rfl⟩
        exact ⟨record, rfl⟩
  | cons f fields ih =>
      obtain ⟨hf, hfields⟩ := List.forall_mem_cons.1 hsteady
      cases items with
      | nil =>
          have hnext := @ih hfields [] (place + 1) record
          have hskip : l.readPlaces origin none record place (f :: fields) [] =
              l.readPlaces origin none record (place + 1) fields [] := by
            rw [readPlaces, hf.presence]
            rfl
          rw [Document.ofItems, List.zip_nil_right, List.drop_nil] at hnext ⊢
          rw [hskip]
          exact hnext
      | cons v items =>
          rw [Document.ofItems, readPlaces, List.zip_cons_cons, List.forall_mem_cons,
            List.length_cons, List.drop_succ_cons]
          constructor
          · rintro ⟨r, h⟩
            obtain ⟨a, ha, h⟩ := Result.exists_of_bind h
            obtain ⟨hread, hleft⟩ := (ih hfields).1 ⟨r, h⟩
            exact ⟨⟨(hf.reads origin v).1 ⟨a, ha⟩, hread⟩, hleft⟩
          · rintro ⟨⟨hv, hread⟩, hleft⟩
            obtain ⟨a, ha⟩ := (hf.reads origin v).2 hv
            obtain ⟨r, hr⟩ := (ih hfields).2 ⟨hread, hleft⟩
            refine ⟨r, ?_⟩
            rw [ha]
            exact hr

theorem endPlaces_eq_ok_iff {l : Layout ρ} {origin : Origin} {length : Nat}
    {left : List Document} : l.endPlaces origin length left none = .ok () ↔ left = [] := by
  unfold endPlaces
  cases origin <;> cases left <;> simp

/-! ### Values -/

/-- A value that a record is read from. -/
def Reads (l : Layout ρ) : Value → Prop
  | .object members => ∀ f ∈ l.allFields, f.ReadsMembers members
  | .array items => l.isPlain = true ∧ items.length ≤ l.fields.length ∧
    ∀ e ∈ l.fields.zip items, e.1.Reads e.2
  | _ => False

theorem exists_decode_iff {l : Layout ρ} (hsteady : ∀ f ∈ l.allFields, f.Steady)
    (hdistinct : (l.allFields.map (·.key)).Nodup) (hremainder : l.remainder = none)
    (hloose : l.loose = false) {origin : Origin} {v : Value} :
    (∃ r, l.decode origin (.ofValue v) = .ok r) ↔ l.Reads v := by
  have hmismatch : ∀ d, ¬ ∃ r, (mismatch l.expected d : Except DecodeError ρ) = .ok r := by
    rintro d ⟨r, h⟩
    obtain ⟨found, -, h⟩ := Result.exists_of_bind h
    cases h
  cases v with
  | object members =>
      exact exists_readObject_iff hsteady hdistinct hremainder hloose
  | array items =>
      have hfields : ∀ f ∈ l.fields, f.Steady := fun f hf => hsteady f (List.mem_append_left _ hf)
      rw [Document.ofValue, decode, hloose, Reads]
      cases hplain : l.isPlain with
      | false =>
          refine ⟨fun h => absurd h (hmismatch _), fun h => absurd h.1 (by decide)⟩
      | true =>
          have hdrop : Document.ofItems (items.drop l.fields.length) = [] ↔
              items.length ≤ l.fields.length := by
            rw [← List.drop_eq_nil_iff]
            cases items.drop l.fields.length <;> simp [Document.ofItems]
          rw [if_neg (by decide), if_neg (by decide), Result.exists_bind_iff]
          constructor
          · rintro ⟨⟨record, left⟩, hplaces, h⟩
            obtain ⟨hread, rfl⟩ := (exists_readPlaces_iff hfields).1 ⟨record, hplaces⟩
            obtain ⟨u, hend, -⟩ := Result.exists_bind_iff.1 h
            exact ⟨rfl, hdrop.1 (endPlaces_eq_ok_iff.1 hend), hread⟩
          · rintro ⟨-, hlength, hread⟩
            obtain ⟨record, hplaces⟩ := (exists_readPlaces_iff hfields).2 ⟨hread, rfl⟩
            refine ⟨(record, []), ?_, Result.exists_bind_iff.2 ⟨(), ?_, record, rfl⟩⟩
            · rw [← hdrop.2 hlength]
              exact hplaces
            · exact endPlaces_eq_ok_iff.2 rfl
  | null | bool _ | number _ | string _ =>
      exact ⟨fun h => absurd h (hmismatch _), fun h => absurd h id⟩

end Layout
end Fleet.Json

import Fleet.Proofs.Json.Stable

/-! # Records that are decoded anywhere

A decoder is uniform if it does not ask where a document comes from (`Decoder.IsUniform`).  So
is a record whose own fields are decoded uniformly, if it has parts or keeps all other members
(`Layout.isUniform_decode`).  In the latter case it is decoded only from objects of which every member has
a value, so that these can be set aside as well (`Layout.exists_toMembers`). -/

namespace Fleet.Json

variable {α ρ : Type}

/-! ### Decoders that do not ask where a document comes from -/

/-- The decoder does not ask where the document comes from. -/
def Decoder.IsUniform (decode : Decoder α) : Prop :=
  ∀ origin origin' d, decode origin d = decode origin' d

theorem isUniform_text : Decoder.IsUniform text := by
  intro origin origin' d
  cases d <;> rfl

theorem isUniform_map_anyValue : Decoder.IsUniform (map anyValue) := by
  intro origin origin' d
  cases d with
  | object tooDeep members ending => cases tooDeep <;> rfl
  | _ => rfl

theorem isUniform_instant : Decoder.IsUniform instant := by
  intro origin origin' d
  cases d <;> rfl

theorem Decoder.IsUniform.optional {decode : Decoder α} (h : Decoder.IsUniform decode) :
    Decoder.IsUniform (Json.optional decode) := by
  intro origin origin' d
  have hmap := congrArg (Except.map some) (h origin origin' d)
  cases d with
  | broken start fault => cases start <;> first | rfl | exact hmap
  | null => rfl
  | _ => exact hmap

/-- Members that are fields of their own are decoded alike wherever the object comes from. -/
theorem Layout.readMembers_origin {l : Layout ρ} (h : ∀ f ∈ l.fields, Decoder.IsUniform f.decode)
    (origin origin' : Origin) (p : Progress ρ)
    (members : List (Except SyntaxError String × Document)) :
    l.readMembers origin p members = l.readMembers origin' p members := by
  induction members generalizing p with
  | nil => rfl
  | cons m rest ih =>
      obtain ⟨key, d⟩ := m
      rw [readMembers, readMembers]
      refine bind_congr (fun k => ?_)
      cases hfield : field? l.fields k with
      | some f =>
          have hdecode := h f (key_of_field? hfield).1 origin origin' d
          dsimp only
          unfold readField
          rw [hdecode]
          exact bind_congr (fun p' => ih p')
      | none =>
          dsimp only
          rw [ih p]

/-- A record with parts, or one that keeps other members, is decoded uniformly if its own fields are. -/
theorem Layout.isUniform_decode {l : Layout ρ} (hplain : l.isPlain = false)
    (h : ∀ f ∈ l.fields, Decoder.IsUniform f.decode) : Decoder.IsUniform l.decode := by
  intro origin origin' d
  cases d with
  | object tooDeep members ending =>
      cases tooDeep with
      | true => rfl
      | false =>
          change l.readObject origin members ending = l.readObject origin' members ending
          unfold Layout.readObject
          rw [Layout.readMembers_origin h origin origin']
  | array tooDeep items ending =>
      rw [Layout.decode, Layout.decode, hplain]
      rfl
  | _ => rfl

/-! ### Documents of which every member was decoded -/

/-- The decoder takes nothing out of a document that has no value. -/
def Decoder.NeedsValue (decode : Decoder α) : Prop :=
  ∀ origin d a, decode origin d = .ok a → ∃ v, d.toValue = .ok v

theorem needsValue_instant : Decoder.NeedsValue instant := by
  intro origin d t h
  cases d with
  | string s =>
      obtain ⟨text, hs, -⟩ := Result.exists_of_bind h
      have hs := Result.mapError_eq_ok_iff.1 hs
      exact ⟨.string text, by rw [Document.toValue, hs]; rfl⟩
  | _ => exact absurd h mismatch_ne_ok

theorem Decoder.NeedsValue.optional {decode : Decoder α} (h : Decoder.NeedsValue decode) :
    Decoder.NeedsValue (Json.optional decode) := by
  intro origin d a hd
  have hmap : ∀ {d}, (decode origin d).map some = .ok a → ∃ v, d.toValue = .ok v := by
    intro d hd
    obtain ⟨b, hb, -⟩ := Result.exists_of_map hd
    exact h origin d b hb
  cases d with
  | null => exact ⟨.null, rfl⟩
  | broken start fault =>
      cases start with
      | null => cases hd
      | _ => exact hmap hd
  | _ => exact hmap hd

/-- A record that keeps all members is decoded only if every member has a value. -/
theorem Layout.exists_toMembers {l : Layout ρ} (hplain : l.isPlain = false)
    (h : ∀ f ∈ l.fields, Decoder.NeedsValue f.decode) {origin : Origin} {p : Progress ρ}
    {members : List (Except SyntaxError String × Document)} {result}
    (hread : l.readMembers origin p members = .ok result) :
    ∃ values, Document.toMembers members = .ok values := by
  induction members generalizing p result with
  | nil => exact ⟨[], rfl⟩
  | cons m rest ih =>
      obtain ⟨key, d⟩ := m
      rw [readMembers] at hread
      obtain ⟨k, hkey, hrest⟩ := Result.exists_of_bind hread
      clear hread
      obtain rfl : key = .ok k := Result.mapError_eq_ok_iff.1 hkey
      obtain ⟨v, hv, p', result', hrest⟩ : ∃ v, d.toValue = .ok v ∧
          ∃ p' result', l.readMembers origin p' rest = .ok result' := by
        cases hfield : field? l.fields k with
        | some f =>
            rw [hfield] at hrest
            obtain ⟨p', hp', hrest⟩ := Result.exists_of_bind hrest
            unfold readField at hp'
            split at hp'
            · cases hp'
            · obtain ⟨a, ha, -⟩ := Result.exists_of_bind hp'
              obtain ⟨v, hv⟩ := h f (key_of_field? hfield).1 origin d a ha
              exact ⟨v, hv, p', result, hrest⟩
        | none =>
            rw [hfield, hplain] at hrest
            obtain ⟨v, hv, hrest⟩ := Result.exists_of_bind hrest
            obtain ⟨result', hrest, -⟩ := Result.exists_of_bind hrest
            exact ⟨v, Result.mapError_eq_ok_iff.1 hv, p, result', hrest⟩
      obtain ⟨values, hvalues⟩ := ih hrest
      refine ⟨(k, v) :: values, ?_⟩
      rw [Document.toMembers, hv, hvalues]
      rfl

end Fleet.Json

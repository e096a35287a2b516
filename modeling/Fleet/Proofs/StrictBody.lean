import Fleet.Proofs.Json.Aside
import Fleet.Proofs.Service.ReportBody
import Fleet.Proofs.Text.Order
import Fleet.Record.Tenant

/-! # Strict bodies

The properties of a tenant or a cluster are read strictly: a body that names anything else is refused.
Otherwise this is as any reading (`Service.IsStrictlyRead`), although all members are set aside first.
Only the type of a cluster's repository can tell the difference, and does not unless it is written as an
object.

Main statement: `readStrict_iff_readBody`. -/

namespace Fleet

open Json Record

/-! ### Records that agree -/

namespace Record

theorem isUniform_facts : Decoder.IsUniform Facts.codec.decode := isUniform_map_anyValue

theorem RevisionedGitRepo.isUniform_decode : Decoder.IsUniform RevisionedGitRepo.layout.decode :=
  Layout.isUniform_decode rfl (List.forall_mem_singleton.2 isUniform_text.optional)

/-- No property of a tenant depends on where it is decoded. -/
theorem TenantProperties.agreesOn_decode (v : Value) :
    Decoder.AgreesOn TenantProperties.layout.decode v := by
  refine Layout.agreesOn_decode rfl rfl (by decide) (fun f hf w _ => ?_)
  simp only [TenantProperties.layout, List.mem_cons, List.not_mem_nil, or_false] at hf
  rcases hf with rfl | rfl | rfl | rfl | rfl
  · exact isUniform_text.optional.agreesOn w
  · exact isUniform_facts.optional.agreesOn w
  · exact RevisionedGitRepo.isUniform_decode.optional.agreesOn w
  · exact isUniform_text.optional.agreesOn w
  · exact isUniform_text.optional.agreesOn w

/-- The type of the repository, if there is one, is not written as an object. -/
def GitRepo.TypesPlainly (repo : Value) : Prop :=
  ∀ type, GitRepo.layout.Gives repo "type" type → ∀ members, type ≠ .object members

theorem GitRepo.agreesOn_decode {repo : Value} (h : GitRepo.TypesPlainly repo) :
    Decoder.AgreesOn GitRepo.layout.decode repo := by
  refine Layout.agreesOn_decode rfl rfl (by decide) (fun f hf w hw => ?_)
  simp only [GitRepo.layout, List.mem_cons, List.not_mem_nil, or_false] at hf
  rcases hf with rfl | rfl | rfl | rfl
  · exact isUniform_text.optional.agreesOn w
  · exact isUniform_text.optional.agreesOn w
  · exact (agreesOn_choice RepoType.all (h w hw)).optional
  · exact isUniform_text.optional.agreesOn w

/-- The type of the cluster's repository, if there is one, is not written as an object. -/
def ClusterProperties.TypesPlainly (v : Value) : Prop :=
  ∀ repo, ClusterProperties.layout.Gives v "gitRepo" repo → GitRepo.TypesPlainly repo

/-- The one property of a cluster that may depend on where it is decoded is the repository. -/
theorem ClusterProperties.agreesOn_decode {v : Value} (h : ClusterProperties.TypesPlainly v) :
    Decoder.AgreesOn ClusterProperties.layout.decode v := by
  refine Layout.agreesOn_decode rfl rfl (by decide) (fun f hf w hw => ?_)
  simp only [ClusterProperties.layout, List.mem_cons, List.not_mem_nil, or_false] at hf
  rcases hf with rfl | rfl | rfl | rfl | rfl | rfl | rfl | rfl | rfl
  · exact isUniform_text.optional.agreesOn w
  · exact isUniform_facts.optional.agreesOn w
  · exact isUniform_facts.optional.agreesOn w
  · exact isUniform_facts.optional.agreesOn w
  · exact (GitRepo.agreesOn_decode (h w hw)).optional
  · exact isUniform_text.optional.agreesOn w
  · exact isUniform_text.optional.agreesOn w
  · exact isUniform_text.optional.agreesOn w
  · exact CompileReport.isUniform_decode.optional.agreesOn w

theorem GitRepo.TypesPlainly.of_settle {repo : Value} (h : GitRepo.TypesPlainly repo.settle) :
    GitRepo.TypesPlainly repo := by
  rintro type htype members rfl
  exact h _ htype.settle _ (Value.settle_object members)

theorem ClusterProperties.TypesPlainly.of_settle {v : Value}
    (h : ClusterProperties.TypesPlainly v.settle) : ClusterProperties.TypesPlainly v :=
  fun repo hrepo => (h repo.settle hrepo.settle).of_settle

end Record

namespace Service

variable {ρ : Type} {l : Layout ρ} {body : List UInt8} {v : Value}

/-! ### Objects -/

/-- An object gives a name that is no field of the record. -/
def NamesUnknown (l : Layout ρ) (v : Value) (key : String) : Prop :=
  ∃ members, v = .object members ∧ key ∈ members.map Prod.fst ∧ key ∉ l.fields.map (·.key)

theorem namesUnknown_settle {given : List (String × Value)} {key : String} :
    NamesUnknown l (Value.object given).settle key ↔ key ∈ (l.unknown given).keys := by
  rw [Value.settle_object, Layout.mem_keys_unknown, ← Dict.mem_keys_ofList]
  have hkeys : ((Dict.ofList given).map Value.settle).entries.map Prod.fst =
      (Dict.ofList given).keys := List.map_map ..
  constructor
  · rintro ⟨members, hmembers, hin, hnot⟩
    cases hmembers
    exact ⟨hkeys ▸ hin, hnot⟩
  · rintro ⟨hin, hnot⟩
    exact ⟨_, rfl, hkeys.symm ▸ hin, hnot⟩

/-- A value is an object of nothing but fields as it is read if it is one as it is given. -/
theorem exists_object_settle_iff {given : Value} :
    (∃ members, given.settle = .object members ∧
        ∀ key ∈ members.map Prod.fst, key ∈ l.fields.map (·.key)) ↔
      ∃ members, given = .object members ∧ (l.unknown members).keys = [] := by
  constructor
  · rintro ⟨members, hmembers, hfields⟩
    obtain ⟨members', rfl⟩ := Value.exists_object_of_settle hmembers
    refine ⟨members', rfl, List.eq_nil_iff_forall_not_mem.2 (fun key hkey => ?_)⟩
    obtain ⟨members'', hmembers', hin, hnot⟩ := namesUnknown_settle.2 hkey
    cases hmembers.symm.trans hmembers'
    exact hnot (hfields key hin)
  · rintro ⟨members, rfl, hnone⟩
    refine ⟨_, Value.settle_object members, fun key hkey => ?_⟩
    by_contra hnot
    have hunknown : NamesUnknown l (Value.object members).settle key :=
      ⟨_, Value.settle_object members, hkey, hnot⟩
    rw [namesUnknown_settle, hnone] at hunknown
    cases hunknown

/-! ### Strict reading -/

section

variable {given : Value} (hwrites : Writes body given)

include hwrites

theorem Writes.exists_object {r : ρ} (h : readStrict l body = .ok r) :
    ∃ members, given = .object members := by
  obtain ⟨read, hread, -⟩ := Result.exists_of_bind h
  exact Layout.exists_object_of_decode_strict (hwrites.readBody_eq_ok_iff.1 hread)

theorem Writes.decode_aside_iff (hagrees : Decoder.AgreesOn l.decode given) {r : ρ} :
    (l.decode .aside (.ofValue given)).mapError (fun e => Refusal.badRequest e.message) = .ok r ↔
      readBody l.decode body = .ok r := by
  rw [Result.mapError_eq_ok_iff, hwrites.readBody_eq_ok_iff]
  exact (hagrees r).symm

variable (hplain : l.isPlain = true) (hloose : l.loose = false)

include hplain hloose

/-- What is read strictly from an object: a record, unless it is none, or there is a name of no field. -/
theorem Writes.readStrict_object {members : List (String × Value)} (h : given = .object members) :
    readStrict l body =
      (l.decode .aside (.ofValue given)).mapError (fun e => .badRequest e.message) >>=
        fun r => match (l.unknown members).keys with
          | [] => .ok r
          | field :: _ => .error (.badRequest ("unknown field `" ++ field ++ "`")) := by
  subst h
  unfold readStrict
  rw [hwrites, Layout.decode_strict_of_isPlain hplain hloose]
  cases l.decode .aside (.ofValue (.object members)) <;> rfl

variable (hagrees : Decoder.AgreesOn l.decode given)

include hagrees

theorem Writes.readStrict_eq_ok_iff {r : ρ} : readStrict l body = .ok r ↔
    (∃ members, given = .object members ∧ (l.unknown members).keys = []) ∧
      readBody l.decode body = .ok r := by
  constructor
  · intro h
    obtain ⟨members, hmembers⟩ := hwrites.exists_object h
    rw [hwrites.readStrict_object hplain hloose hmembers] at h
    obtain ⟨r', hread, h⟩ := Result.exists_of_bind h
    split at h
    · next hnone =>
        cases h
        exact ⟨⟨members, hmembers, hnone⟩, (hwrites.decode_aside_iff hagrees).1 hread⟩
    · cases h
  · rintro ⟨⟨members, hmembers, hnone⟩, hread⟩
    rw [hwrites.readStrict_object hplain hloose hmembers,
      (hwrites.decode_aside_iff hagrees).2 hread, hnone]
    rfl

/-- If nothing else is wrong, the least name of no field is told. -/
theorem Writes.readStrict_of_unknown {r : ρ} (hread : readBody l.decode body = .ok r)
    (hunknown : ∃ key, NamesUnknown l given.settle key) :
    ∃ key, NamesUnknown l given.settle key ∧
      (∀ other, NamesUnknown l given.settle other → other ≠ key →
        Text.encode key < Text.encode other) ∧
      readStrict l body = .error (.badRequest ("unknown field `" ++ key ++ "`")) := by
  obtain ⟨key, hkey⟩ := hunknown
  have hsettled := hkey
  obtain ⟨_, hobject, -⟩ := hsettled
  obtain ⟨members, rfl⟩ := Value.exists_object_of_settle hobject
  cases hkeys : (l.unknown members).keys with
  | nil =>
      rw [namesUnknown_settle, hkeys] at hkey
      cases hkey
  | cons field rest =>
      refine ⟨field, namesUnknown_settle.2 (hkeys ▸ List.mem_cons_self), ?_, ?_⟩
      · intro other hother hne
        exact Text.encode_lt_encode_iff.2
          (Dict.lt_of_keys_eq_cons hkeys (namesUnknown_settle.1 hother) hne)
      · rw [hwrites.readStrict_object hplain hloose rfl,
          (hwrites.decode_aside_iff hagrees).2 hread, hkeys]
        rfl

end

/-! ### Strict and other reading -/

/-- A body that is JSON is read strictly as it is read anyway, except that names of no field are
refused. -/
structure IsStrictlyRead (l : Layout ρ) (body : List UInt8) (v : Value) : Prop where
  /-- What is read is an object with nothing but fields, and is read the same anyway. -/
  accepted : ∀ r, readStrict l body = .ok r ↔
    (∃ members, v = .object members ∧ ∀ key ∈ members.map Prod.fst, key ∈ l.fields.map (·.key)) ∧
      readBody l.decode body = .ok r
  /-- Any other name is a bad request. -/
  refused : ∀ key, NamesUnknown l v key → ∃ e, readStrict l body = .error e ∧ e.status = 400
  /-- If this is all that is wrong, then the least of these names is told. -/
  told : ∀ r, readBody l.decode body = .ok r → (∃ key, NamesUnknown l v key) →
    ∃ key, NamesUnknown l v key ∧
      (∀ other, NamesUnknown l v other → other ≠ key → Text.encode key < Text.encode other) ∧
      readStrict l body = .error (.badRequest ("unknown field `" ++ key ++ "`"))

/-- A record that agrees on what the body writes is read strictly. -/
theorem Writes.isStrictlyRead {given : Value} (hwrites : Writes body given) (hplain : l.isPlain = true)
    (hloose : l.loose = false) (hagrees : Decoder.AgreesOn l.decode given) :
    IsStrictlyRead l body given.settle where
  accepted r := by
    rw [hwrites.readStrict_eq_ok_iff hplain hloose hagrees, exists_object_settle_iff]
  refused key hkey := by
    cases hread : readStrict l body with
    | error e => exact ⟨e, rfl, status_of_readStrict hread⟩
    | ok r =>
        obtain ⟨⟨members, rfl, hnone⟩, -⟩ :=
          (hwrites.readStrict_eq_ok_iff hplain hloose hagrees).1 hread
        rw [namesUnknown_settle, hnone] at hkey
        cases hkey
  told _ hread hunknown := hwrites.readStrict_of_unknown hplain hloose hagrees hread hunknown

/-- Strict reading is reading without unknown names, of tenants and of clusters. -/
theorem readStrict_iff_readBody (h : readBody anyValue body = .ok v) :
    IsStrictlyRead TenantProperties.layout body v ∧
      (ClusterProperties.TypesPlainly v → IsStrictlyRead ClusterProperties.layout body v) := by
  obtain ⟨given, rfl, hwrites⟩ := exists_writes h
  refine ⟨hwrites.isStrictlyRead rfl rfl (TenantProperties.agreesOn_decode given), ?_⟩
  intro hplainly
  exact hwrites.isStrictlyRead rfl rfl (ClusterProperties.agreesOn_decode hplainly.of_settle)

end Service

/-! #### Names beside the properties -/

namespace Service.Beside

/-- The properties of a cluster, with its id and its tenant beside them. -/
def value : Value := .object [("displayName", .string "Blue"),
  ("gitRepo", .array [.null, .null, .string "auto"]), ("id", .string "c-1"), ("tenant", .string "t-1")]

def body : List UInt8 := Text.encode value.render

theorem readStrict_iff_readBody_beside : readBody anyValue body = .ok value ∧
    IsStrictlyRead TenantProperties.layout body value ∧ ClusterProperties.TypesPlainly value ∧
    IsStrictlyRead ClusterProperties.layout body value ∧
    readStrict ClusterProperties.layout body = .error (.badRequest "unknown field `id`") := by
  have hfits : value.Fits depthLimit :=
    ⟨by decide, by decide, trivial, ⟨by decide, trivial, trivial, trivial, trivial⟩, trivial, trivial,
      trivial⟩
  have hwrites : Writes body value := writes_render hfits (Value.survives_of_doubles_nil rfl)
  have hvalue : anyValue .text (.ofValue value) = .ok value :=
    congrArg malformed (Document.toValue_ofValue hfits)
  have hread := hwrites.readBody_eq_ok_iff.2 hvalue
  have hplainly : ClusterProperties.TypesPlainly value := by
    intro repo hrepo type htype members
    obtain rfl := Option.some.inj hrepo
    obtain rfl := Option.some.inj htype
    exact nofun
  obtain ⟨htenant, hcluster⟩ := readStrict_iff_readBody hread
  refine ⟨hread, htenant, hplainly, hcluster hplainly, ?_⟩
  have hdecode : readBody ClusterProperties.layout.decode body =
      .ok { displayName := some "Blue", gitRepo := some { repoType := some .auto } } :=
    hwrites.readBody_eq_ok_iff.2 rfl
  have hid : NamesUnknown ClusterProperties.layout value "id" := ⟨_, rfl, by decide, by decide⟩
  obtain ⟨key, ⟨members, hmembers, hin, hnot⟩, hleast, hstrict⟩ :=
    (hcluster hplainly).told _ hdecode ⟨"id", hid⟩
  cases hmembers
  have hkey : key = "id" := by
    by_contra hne
    have hlt := Text.encode_lt_encode_iff.1 (hleast "id" hid (Ne.symm hne))
    simp only [List.map_cons, List.map_nil, List.mem_cons, List.not_mem_nil, or_false] at hin
    rcases hin with rfl | rfl | rfl | rfl
    · exact hnot (by decide)
    · exact hnot (by decide)
    · exact hne rfl
    · exact absurd hlt (by decide)
  rw [hstrict, hkey]
  rfl

end Service.Beside
end Fleet

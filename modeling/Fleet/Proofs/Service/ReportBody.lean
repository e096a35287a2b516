import Fleet.Proofs.Exchange.CompileMeta
import Fleet.Proofs.Json.Origin
import Fleet.Proofs.Service.Body

/-! # Reports in bodies

A compile report is the body of a request, or the one member of an object that is
(`NamesReport`).  Either way it is read alike: it does not matter where it stands
(`CompileReport.isUniform_decode`), and what can be read of it where it stands alone can also be set aside
and read later (`NamesReport.readStrict_of_ok`). -/

namespace Fleet

open Json Record

/-! ### The only member of an object -/

namespace Json.Layout

variable {ρ : Type} {l : Layout ρ}

/-- An object that names one field of a record is read as the record with nothing but this field,
which is set aside before. -/
theorem decode_strict_single {key : String} {f : Field ρ} (hfield : field? l.fields key = some f)
    (hfree : ∀ f ∈ l.fields, f.presence ≠ .required) (origin : Origin) (d : Document) :
    l.strict.decode origin (.object false [(.ok key, d)] none) = do
      let _ ← malformed d.toValue
      let a ← f.decode .aside d
      return (f.set a l.blank, .empty) := by
  have hread : field? (l.fields.map (·.within Prod.fst (fun r (s : ρ × Dict Value) => (r, s.2)))) key =
      some (f.within Prod.fst (fun r s => (r, s.2))) := by rw [field?_within, hfield, Option.map_some]
  have haside : l.strict.readMembers origin ⟨l.strict.blank, []⟩ [(.ok key, d)] =
      malformed d.toValue >>= fun _ => pure (⟨l.strict.blank, []⟩, [(key, d)]) := rfl
  have hparts : readParts l.strict.blank [(key, d)] l.strict.parts =
      f.decode .aside d >>= fun a => pure (f.set a l.blank, Dict.empty) := by
    have hdemand : demand (l.fields.map (fun f => f.within Prod.fst
        (fun r (s : ρ × Dict Value) => (r, s.2)))) [f.key] = .ok () := by
      refine demand_of_forall (fun g hg hrequired => ?_)
      obtain ⟨f, hf, rfl⟩ := List.mem_map.1 hg
      exact absurd hrequired (hfree f hf)
    change (readAside (l.fields.map (fun f => f.within Prod.fst
      (fun r (s : ρ × Dict Value) => (r, s.2)))) ⟨l.strict.blank, []⟩ [(key, d)] >>= fun p => _) = _
    have hfirst : readField false (f.within Prod.fst (fun r (s : ρ × Dict Value) => (r, s.2))) .aside d
        ⟨l.strict.blank, []⟩ =
        f.decode .aside d >>= fun a => pure ⟨(f.set a l.blank, .empty), [f.key]⟩ := rfl
    rw [readAside, hread]
    dsimp only
    rw [hfirst, bind_assoc, bind_assoc]
    refine bind_congr (fun a => ?_)
    change (demand _ [f.key] >>= fun _ => _) = _
    rw [hdemand]
    rfl
  have hothers : ∀ record, l.strict.readOthers [(key, d)] record = .ok (record.1, .empty) := by
    intro record
    have hnone : l.strict.others [(key, d)] = [] := by
      have hparts : l.strict.parts = [l.fields.map (fun f => f.within Prod.fst
        (fun r (s : ρ × Dict Value) => (r, s.2)))] := rfl
      unfold others
      rw [hparts]
      simp [hread]
    unfold readOthers
    rw [hnone]
    rfl
  change l.strict.readObject origin [(.ok key, d)] none = _
  unfold readObject
  rw [haside, bind_assoc]
  refine bind_congr (fun v => ?_)
  change (readParts l.strict.blank [(key, d)] l.strict.parts >>= fun record =>
    l.strict.readOthers [(key, d)] record) = _
  rw [hparts, bind_assoc]
  exact bind_congr (fun a => hothers _)

end Json.Layout

/-! ### Reports -/

namespace Record.CompileReport

theorem isUniform_fields : ∀ f ∈ layout.fields, Decoder.IsUniform f.decode :=
  List.forall_mem_singleton.2 isUniform_instant.optional

theorem needsValue_fields : ∀ f ∈ layout.fields, Decoder.NeedsValue f.decode :=
  List.forall_mem_singleton.2 needsValue_instant.optional

variable {origin : Origin} {members : List (Except SyntaxError String × Document)}
  {report : CompileReport}

/-- A report is read alike wherever it stands. -/
theorem isUniform_decode : Decoder.IsUniform layout.decode := Layout.isUniform_decode rfl isUniform_fields

/-- A report that is read is a value. -/
theorem exists_toValue (h : layout.decode origin (.object false members none) = .ok report) :
    ∃ v, (Document.object false members none).toValue = .ok v := by
  obtain ⟨_, hread, -⟩ := Result.exists_of_bind
    (show layout.readObject origin members none = .ok report from h)
  obtain ⟨values, hvalues⟩ := Layout.exists_toMembers rfl needsValue_fields hread
  rw [Document.toValue, hvalues]
  exact ⟨_, rfl⟩

end Record.CompileReport

namespace Service

variable {body : List UInt8} {members : List (Except SyntaxError String × Document)}
  {report : CompileReport}

/-- The properties that say nothing but that a report was given. -/
def onlyReport (report : CompileReport) : ClusterProperties := { compileMeta := some report }

theorem isEmpty_of_readText {tooDeep more : Bool} {ending : Option Fault}
    (h : readText (.ofBytes body) = ⟨.object tooDeep members ending, more⟩) : body.isEmpty = false := by
  have hnothing : readText (.ofBytes []) = ⟨.broken .nothing (.both .endOfValue), false⟩ := by
    unfold readText
    rw [show Source.ofBytes [] = [] from rfl, readValue]
    rfl
  cases body with
  | nil =>
      rw [hnothing] at h
      cases h
  | cons _ _ => rfl

/-- A body that is an object is read as one. -/
theorem readBody_object {α : Type} {decode : Decoder α}
    (h : readText (.ofBytes body) = ⟨.object false members none, false⟩) :
    readBody decode body = (decode .text (.object false members none)).mapError
      (fun e => .badRequest e.message) := by
  unfold readBody decodeText
  rw [isEmpty_of_readText h, h]
  dsimp only
  cases decode .text (.object false members none) <;> rfl

/-- Two bodies name the members of one report: they are the first body, and the only thing that the
second one says. -/
structure NamesReport (members : List (Except SyntaxError String × Document))
    (alone within : List UInt8) : Prop where
  alone : readText (.ofBytes alone) = ⟨.object false members none, false⟩
  within : readText (.ofBytes within) =
    ⟨.object false [(.ok "compileMeta", .object false members none)] none, false⟩

section

variable {alone within : List UInt8} (h : NamesReport members alone within)

include h

/-- What the second body is read as, if the first one is a report. -/
theorem NamesReport.decode_within :
    readBody ClusterProperties.layout.strict.decode within =
      (malformed (Document.object false members none).toValue >>= fun _ =>
        (CompileReport.layout.decode .text (.object false members none)).map fun report =>
          (onlyReport report, Dict.empty)).mapError (fun e => .badRequest e.message) := by
  have hfield : Layout.field? ClusterProperties.layout.fields "compileMeta" =
      some (.optional "compileMeta" CompileReport.layout.codec (·.compileMeta)
        (fun v r => { r with compileMeta := v })) := rfl
  have hfree : ∀ f ∈ ClusterProperties.layout.fields, f.presence ≠ .required := by decide
  rw [readBody_object h.within, Layout.decode_strict_single hfield hfree,
    CompileReport.isUniform_decode .text .aside]
  refine congrArg _ (bind_congr fun _ => ?_)
  change ((CompileReport.layout.decode .aside (.object false members none)).map some >>= _) = _
  cases CompileReport.layout.decode .aside (.object false members none) <;> rfl

/-- A report is taken out of the second body if it is the first one. -/
theorem NamesReport.readStrict_of_ok
    (hread : readBody CompileReport.layout.decode alone = .ok report) :
    readStrict ClusterProperties.layout within = .ok (onlyReport report) := by
  rw [readBody_object h.alone, Result.mapError_eq_ok_iff] at hread
  obtain ⟨v, hv⟩ := CompileReport.exists_toValue hread
  unfold readStrict
  rw [h.decode_within, hv, hread]
  rfl

theorem NamesReport.readStrict_of_error {e : Refusal}
    (hread : readBody CompileReport.layout.decode alone = .error e) :
    ∃ e', readStrict ClusterProperties.layout within = .error e' ∧ e'.status = 400 := by
  have hwithin : ∃ e', readBody ClusterProperties.layout.strict.decode within = .error e' := by
    rw [readBody_object h.alone] at hread
    rw [h.decode_within]
    cases hdecode : CompileReport.layout.decode .text (.object false members none) with
    | ok report =>
        rw [hdecode] at hread
        cases hread
    | error e =>
        cases (Document.object false members none).toValue <;> exact ⟨_, rfl⟩
  obtain ⟨e', he'⟩ := hwithin
  refine ⟨e', ?_, status_of_readBody he'⟩
  unfold readStrict
  rw [he']
  rfl

end

/-- The bodies that write an object, and an object with just this one in it, name the same report. -/
theorem namesReport_render {d : Dict Value} (h : (Value.ofDict d).Fits (depthLimit - 1))
    (hsurvives : (Value.ofDict d).Survives) :
    NamesReport (Document.ofMembers d.entries) (Text.encode (Value.ofDict d).render)
      (Text.encode (Value.object [("compileMeta", .ofDict d)]).render) := by
  have hfits : (Value.ofDict d).Fits depthLimit := h.mono (by decide)
  have hwithin : (Value.object [("compileMeta", .ofDict d)]).Fits depthLimit :=
    ⟨by decide, List.pairwise_singleton _ _, h, trivial⟩
  have hsame : (Value.object [("compileMeta", .ofDict d)]).doubles = (Value.ofDict d).doubles :=
    List.append_nil _
  exact ⟨readText_body hfits hsurvives,
    readText_body hwithin (fun x hx => hsurvives x (hsame ▸ hx))⟩

end Service
end Fleet

import Fleet.Proofs.Service.Dated

/-! # Dynamic facts survive storage

A dynamic fact is stored as the JSON text of its value.  A value that was read from a JSON text comes
back as it was, of whichever kind, if the binary64 numbers in it survive their text form, and a text
that looks like JSON comes back as the text that it is: it is stored in quotes.  A stored text that is
not JSON stands for itself.  So the facts that a client gives are the facts that clients see, but for
the difference between no facts and none at all.

Main statement: `dynamic_facts_survive`. -/

namespace Fleet

open Json

/-! ### Single facts -/

namespace Fact

/-- Texts survive, whatever they look like. -/
theorem decode_encode_string (text : String) :
    decode (encode (.string text)) = .string text :=
  decode_encode trivial (Value.survives_of_doubles_nil rfl)

/-- A stored text that is not JSON stands for itself. -/
theorem decode_of_not_json {raw : String} (h : ∀ v, parse (.ofString raw) ≠ .ok v) :
    decode raw = .string raw := by
  unfold decode
  cases hparse : parse (.ofString raw) with
  | ok v => exact absurd hparse (h v)
  | error e => rfl

/-- What a stored text is decoded to survives from then on. -/
theorem decode_encode_decode {raw : String} (hsurvives : (decode raw).Survives) :
    decode (encode (decode raw)) = decode raw := by
  cases hparse : parse (.ofString raw) with
  | ok v =>
      have hdecode : decode raw = v := by
        unfold decode
        rw [hparse]
      rw [hdecode] at hsurvives ⊢
      exact decode_encode (fits_of_parse hparse) hsurvives
  | error e =>
      have hnot : ∀ v, parse (.ofString raw) ≠ .ok v := fun v hv => by
        rw [hparse] at hv
        cases hv
      rw [decode_of_not_json hnot]
      exact decode_encode_string raw

end Fact

/-! ### Facts of clusters -/

namespace Exchange.Cluster

open Record

theorem dynamicFacts_of_toRecord {c : Resource.Cluster} {record : Record.Cluster}
    (h : toRecord c = .ok record) :
    record.properties.dynamicFacts = c.status.bind (fun s => decodeFacts s.facts) := by
  obtain ⟨report, -, h⟩ := Result.exists_of_bind h
  cases h
  rfl

/-- Clients see the facts that a client gave. -/
theorem dynamicFacts_of_result_take {p : ClusterProperties} {c c' : Resource.Cluster} {facts : Facts}
    (hgiven : p.dynamicFacts = some facts) (hread : facts.AreRead) (hsurvive : facts.Survive)
    (htake : (take p).result c = .ok c') {record : Record.Cluster} (hshown : toRecord c' = .ok record) :
    record.properties.dynamicFacts = facts.nonEmpty := by
  obtain ⟨template, m, -, -, rfl⟩ := exists_of_result_take htake
  have hstored : (amended p template m c).status = statusAfter (some facts) m c.status :=
    congrArg (fun given => statusAfter given m c.status) hgiven
  have hreplaced := decodeFacts_statusAfter (some facts) m c.status
  rw [Option.map_some, Facts.reread_eq hread.fit hsurvive] at hreplaced
  rw [dynamicFacts_of_toRecord hshown, hstored]
  exact hreplaced

end Exchange.Cluster

/-! ### Result -/

open Exchange.Cluster in
/-- Every value that was read from a JSON text, and of which the binary64 numbers survive their text form,
is decoded from its encoding, of the same kind; texts stay texts, whatever they look like.  A stored text
that is not JSON is decoded to itself, and what any stored text is decoded to is decoded from its own
encoding, if the numbers in it survive.  Hence the dynamic facts that are taken over into a cluster are
the ones that clients see of it, unless there are none; and the cluster is shown if it could be shown
before. -/
theorem dynamic_facts_survive :
    (∀ s v, parse s = .ok v → v.Survives →
      Fact.decode (Fact.encode v) = v ∧ Fact.kind (Fact.decode (Fact.encode v)) = Fact.kind v) ∧
    (∀ text, Fact.decode (Fact.encode (.string text)) = .string text) ∧
    (∀ raw, (∀ v, parse (.ofString raw) ≠ .ok v) → Fact.decode raw = .string raw) ∧
    (∀ raw, (Fact.decode raw).Survives →
      Fact.decode (Fact.encode (Fact.decode raw)) = Fact.decode raw) ∧
    ∀ (p : Record.ClusterProperties) (c c' : Resource.Cluster) (facts : Facts),
      p.dynamicFacts = some facts → facts.AreRead → facts.Survive → (take p).result c = .ok c' →
      (c.IsDated → ∃ record, toRecord c' = .ok record) ∧
      ∀ record, toRecord c' = .ok record →
        record.properties.dynamicFacts = if facts.isEmpty then none else some facts := by
  refine ⟨fun s v h hsurvives => ?_, Fact.decode_encode_string, fun raw => Fact.decode_of_not_json,
    fun raw => Fact.decode_encode_decode, fun p c c' facts hgiven hread hsurvive htake => ?_⟩
  · rw [Fact.decode_encode (fits_of_parse h) hsurvives]
    exact ⟨rfl, rfl⟩
  · exact ⟨fun hdated => exists_toRecord (Service.isDated_of_result_take hdated htake),
      fun record hshown => dynamicFacts_of_result_take hgiven hread hsurvive htake hshown⟩

/-! #### Facts that look like something else -/

namespace Exchange.Surviving

/-- Texts that look like other values, and values that are written in odd ways. -/
def nodes : String :=
  r#"["true", "12", "\"x\"", "{}", -0, 1.50e1, {"b":null,"a":[]}]"#

def facts : Facts := .ofList [("nodes", Fact.decode nodes)]

def stored : Resource.Cluster where
  status := some { facts := .ofList [("nodes",
    r#"["true","12","\"x\"","{}",-0.0,15.0,{"a":[],"b":null}]"#)] }

theorem dynamic_facts_survive_odd : parse (.ofString nodes) = .ok (Fact.decode nodes) ∧
    (Fact.decode nodes).Survives ∧
    Fact.decode (Fact.encode (Fact.decode nodes)) = Fact.decode nodes ∧
    facts.AreRead ∧ facts.Survive ∧
    (Cluster.take { dynamicFacts := some facts }).result {} = .ok stored ∧
    ∃ record, Cluster.toRecord stored = .ok record ∧
      record.properties.dynamicFacts = some facts := by
  have hparse : parse (.ofString nodes) = .ok (Fact.decode nodes) := by decide +kernel
  have hnumbers : (Fact.decode nodes).Survives := by decide +kernel
  have hread : facts.AreRead := Facts.areRead_singleton hparse
  have hsurvive : facts.Survive := Facts.survive_singleton hnumbers
  have htake : (Cluster.take { dynamicFacts := some facts }).result {} = .ok stored := by
    decide +kernel
  obtain ⟨hdecode, -, -, -, hshown⟩ := dynamic_facts_survive
  obtain ⟨hexists, hsame⟩ := hshown _ _ _ facts rfl hread hsurvive htake
  obtain ⟨record, hrecord⟩ := hexists (Service.isDated_of_status_none rfl)
  exact ⟨hparse, hnumbers, (hdecode _ _ hparse hnumbers).1, hread, hsurvive, htake, record, hrecord,
    hsame record hrecord⟩

end Exchange.Surviving
end Fleet

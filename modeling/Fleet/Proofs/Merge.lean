import Fleet.Proofs.Exchange.Merge

/-! # A partial update merges public records

A client names some properties of a cluster or tenant, and the stored object is changed
accordingly.  What clients see of the object changes as if the properties had been laid over the
public record, field by field, although the two are of different shapes: a template stands for the
repository, dynamic facts are stored as texts, and compile reports in a normal form. -/

namespace Fleet

open Exchange Json

/-- Taking properties over refines the merge of public records, whatever is stored, if the binary64
numbers in the dynamic facts survive their text form: it leads to an object that is shown as the merged
record, or fails where the merge fails, with the same error: for a repository that is refused, or for a
report that is not well-formed.  Where numbers do not survive, the dynamic facts are merged as they come
out of their texts, and nothing else is different.  Every stored cluster has a public record if its
instant can be written, and every tenant has one. -/
theorem take_refines_merge :
    (∀ (c : Resource.Cluster) (record : Record.Cluster) (p : Record.ClusterProperties),
      Cluster.toRecord c = .ok record →
      (∀ facts, p.dynamicFacts = some facts → facts.AreRead ∧ facts.Survive) →
      Refines Cluster.toRecord (Cluster.merge record p) ((Cluster.take p).result c)) ∧
    (∀ (c : Resource.Cluster) (record : Record.Cluster) (p : Record.ClusterProperties),
      Cluster.toRecord c = .ok record →
      Refines Cluster.toRecord (Cluster.merge record p.reread) ((Cluster.take p).result c)) ∧
    (∀ (record : Record.Cluster) (p : Record.ClusterProperties),
      (∃ merged, Cluster.merge record p = .ok merged) ↔
        (∀ given, p.gitRepo = some given →
          ∃ repo, mergeRepo (record.properties.gitRepo.getD {}) given = .ok repo) ∧
        ∀ report, p.compileMeta = some report → report.IsWellFormed) ∧
    (∀ c : Resource.Cluster,
      (∀ m t, c.status.bind (·.compileMeta) = some m → m.lastCompile = some t → t.IsCalendar) →
      ∃ record, Cluster.toRecord c = .ok record) ∧
    ∀ (t : Resource.Tenant) (p : Record.TenantProperties),
      Refines (fun t => .ok (Tenant.toRecord t)) (Tenant.merge (Tenant.toRecord t) p)
        ((Tenant.take p).result t) := by
  refine ⟨fun c record p hrecord hfacts => ?_, fun _ _ p hrecord => Cluster.refines_merge p hrecord,
    fun _ _ => Cluster.exists_merge_iff, fun _ h => Cluster.exists_toRecord h, Tenant.refines_merge⟩
  have hrefines := Cluster.refines_merge p hrecord
  rwa [p.reread_eq hfacts] at hrefines

/-! #### A cluster with a repository -/

namespace Exchange.Update

/-- A cluster whose repository is managed, with a fact and a compile report. -/
def stored : Resource.Cluster where
  metadata := { name := some "c-1" }
  spec := {
    displayName := "One"
    gitRepoUrl := "ssh://git@h/g/r.git"
    gitRepoTemplate := some (.managed "g" "r")
    tenantRef := ⟨"t-1"⟩
    facts := .ofList [("cloud", "here")] }
  status := some { compileMeta := some {
    lastCompile := some ⟨0, 0⟩
    packages := .ofList [("base", { version := "v1" })] } }

/-- An update that leaves nothing of the report. -/
def given : Record.ClusterProperties where
  displayName := some ""
  facts := some (.ofList [("cloud", .null), ("region", .string "north")])
  dynamicFacts := some (.ofList [("ready", .array [.bool true, .number (.double half)])])
  gitRepo := some { deployKey := some "ssh-ed25519 AAAA" }
  compileMeta := some { details := .ofList [
    ("global", .object [("gitSha", .string "a1"), ("size", .null), ("url", .string "")]),
    ("packages", .object [])] }

/-- What clients see of the cluster. -/
def shown : Record.Cluster where
  id := "c-1"
  tenant := "t-1"
  properties := {
    displayName := some "One"
    facts := some (.ofList [("cloud", .string "here")])
    gitRepo := some { url := some "ssh://git@h/g/r.git", repoType := some .auto }
    compileMeta := some {
      lastCompile := some ⟨0, 0⟩
      details := .ofList [("packages", .object [("base", .object [("version", .string "v1")])])] } }

/-- What clients see of it afterwards. -/
def merged : Record.Cluster where
  id := "c-1"
  tenant := "t-1"
  properties := {
    facts := some (.ofList [("cloud", .string "here"), ("region", .string "north")])
    dynamicFacts := some (.ofList [("ready", .array [.bool true, .number (.double half)])])
    gitRepo := some {
      url := some "ssh://git@h/g/r.git"
      repoType := some .auto
      deployKey := some "ssh-ed25519 AAAA" }
    compileMeta := some {
      details := .ofList [("global", .object [("gitSha", .string "a1")])] } }

theorem facts_given :
    ∀ facts, given.dynamicFacts = some facts → facts.AreRead ∧ facts.Survive := by
  intro facts h
  cases h
  exact ⟨@Facts.areRead_singleton _ _ (.ofString "[true,0.5]") (by decide +kernel),
    Facts.survive_singleton (by decide +kernel)⟩

theorem take_refines_merge_given :
    Cluster.toRecord stored = .ok shown ∧ Cluster.merge shown given = .ok merged ∧
      Refines Cluster.toRecord (Cluster.merge shown given) ((Cluster.take given).result stored) := by
  have hshown : Cluster.toRecord stored = .ok shown := by decide +kernel
  exact ⟨hshown, by decide +kernel, take_refines_merge.1 stored shown given hshown facts_given⟩

/-! #### A number that does not survive -/

/-- An update with a number that is written as `1.0000000000000001e-24`. -/
def tiny : Record.ClusterProperties where
  dynamicFacts := some (.ofList [("load", Fact.decode "1e-24")])

/-- The number is shown as the one next to it. -/
theorem tiny_fact_changed : parse (.ofString "1e-24") = .ok (Fact.decode "1e-24") ∧
    (∀ facts, tiny.dynamicFacts = some facts → facts.AreRead) ∧
    Cluster.toRecord stored = .ok shown ∧
    ¬ Refines Cluster.toRecord (Cluster.merge shown tiny) ((Cluster.take tiny).result stored) := by
  have hparse : parse (.ofString "1e-24") = .ok (Fact.decode "1e-24") := by decide +kernel
  refine ⟨hparse, fun facts h => ?_, by decide +kernel, fun h => ?_⟩
  · cases h
    exact Facts.areRead_singleton hparse
  · exact absurd h.eq_bind (by decide +kernel)

end Exchange.Update
end Fleet

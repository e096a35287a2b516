import Fleet.Proofs.Exchange.Kept
import Fleet.Proofs.Service.Prepare

/-! # Records that come back

A client gives the record of a new object, and sees the record of the object that was made from it.
The two are equal just if nothing of the record is lost (`Record.Cluster.IsKept`); for tenants the
host keys are always lost, which the object has no place for.

Main statements: `cluster_comes_back_iff`, `tenant_comes_back_without_hostKeys`. -/

namespace Fleet

open Exchange Record Service

/-! ### Clusters -/

/-- A cluster that is made from a record with an identifier, of which the binary64 numbers in the dynamic
facts survive their text form, is always shown, and it is shown as that record just if the record is
kept: its identifier starts as it should, nothing in it is empty, facts and annotations are texts, its
repository has its type, and its compile report is in normal form. -/
theorem cluster_comes_back_iff {words : Words} {record : Record.Cluster} {c : Resource.Cluster}
    (hid : record.id ≠ "")
    (hfacts : ∀ facts, record.properties.dynamicFacts = some facts → facts.AreRead ∧ facts.Survive)
    (h : drawn words (Exchange.Cluster.ofRecord record) = .ok c) :
    ∃ shown, Exchange.Cluster.toRecord c = .ok shown ∧ (shown = record ↔ record.IsKept) := by
  obtain ⟨id, hdrawn, -, htake⟩ := exists_of_drawnCluster h
  rw [Ident.drawn_normalize hid] at hdrawn
  have hstart := @Ident.started_eq_iff record.id Ident.clusterStart
  rw [Except.ok.inj hdrawn] at hstart
  have hblank : Exchange.Cluster.toRecord (blankCluster id record.tenant) =
      .ok { id := id, tenant := record.tenant } := rfl
  have hrefines := Exchange.Cluster.refines_merge record.properties hblank
  rw [htake, ClusterProperties.reread_eq hfacts] at hrefines
  obtain ⟨shown, hshown, hmerged⟩ := hrefines
  exact ⟨shown, hshown, Exchange.Cluster.merge_blank_eq_iff hstart hmerged⟩

/-! #### A cluster that comes back -/

namespace Exchange.Return

/-- A cluster with all there is to say of it. -/
def cluster : Record.Cluster where
  id := "c-sample"
  tenant := "t-sample"
  properties := {
    displayName := some "Sample Cluster"
    annotations := some (.ofList [("some", .string "value")])
    facts := some (.ofList [("cloud", .string "cloudscale")])
    dynamicFacts := some (.ofList [("nodes", .array [.bool true, .number (.double Json.half)])])
    gitRepo := some {
      url := some "ssh://git@github.com/example/repo.git"
      hostKeys := some "some keys"
      repoType := some .auto
      deployKey := some "ssh-ed25519 AAAA" }
    globalGitRepoRevision := some "v1"
    tenantGitRepoRevision := some "v2"
    compileMeta := some {
      lastCompile := some ⟨0, 0⟩
      details := .ofList [
        ("global", .object [("gitSha", .string "abc")]),
        ("instances", .object [("argocd", .object [("component", .string "argocd")])])] } }

/-- What is stored of it. -/
def storedCluster : Resource.Cluster where
  metadata := {
    name := some "c-sample"
    labels := some (.ofList [("syn.tools/tenant", "t-sample")])
    annotations := some (.ofList [("some", "value")]) }
  spec := {
    displayName := "Sample Cluster"
    gitRepoUrl := "ssh://git@github.com/example/repo.git"
    gitHostKeys := "some keys"
    gitRepoTemplate := some {
      path := "example"
      repoName := "repo"
      displayName := "c-sample"
      deployKeys := .ofList [("steward", ⟨"ssh-ed25519", "AAAA", true⟩)] }
    tenantRef := ⟨"t-sample"⟩
    facts := .ofList [("cloud", "cloudscale")]
    globalGitRepoRevision := "v1"
    tenantGitRepoRevision := "v2" }
  status := some {
    facts := .ofList [("nodes", "[true,0.5]")]
    compileMeta := some {
      lastCompile := some ⟨0, 0⟩
      global := some { gitSha := "abc" }
      instances := .ofList [("argocd", { component := "argocd" })] } }

theorem facts_cluster : ∀ facts, cluster.properties.dynamicFacts = some facts →
    facts.AreRead ∧ facts.Survive := by
  intro facts h
  cases h
  exact ⟨@Facts.areRead_singleton _ _ (.ofString "[true,0.5]") (by decide +kernel),
    Facts.survive_singleton (by decide +kernel)⟩

theorem cluster_comes_back_sample : cluster.id ≠ "" ∧
    drawn (fun _ => 0) (Cluster.ofRecord cluster) = .ok storedCluster ∧
    Cluster.toRecord storedCluster = .ok cluster ∧ cluster.IsKept := by
  have hid : cluster.id ≠ "" := by decide
  have hstored : drawn (fun _ => 0) (Cluster.ofRecord cluster) = .ok storedCluster := by
    decide +kernel
  have hshown : Cluster.toRecord storedCluster = .ok cluster := by decide +kernel
  obtain ⟨shown, hshown', hkept⟩ := cluster_comes_back_iff hid facts_cluster hstored
  rw [hshown] at hshown'
  exact ⟨hid, hstored, hshown, hkept.1 (Except.ok.inj hshown').symm⟩

end Exchange.Return

/-! ### Tenants -/

/-- A tenant that is made from a record that is kept is shown as that record without its host keys,
and so as that record just if it has none. -/
theorem tenant_comes_back_without_hostKeys {words : Words} {record : Record.Tenant}
    {t : Resource.Tenant} (hkept : record.IsKept)
    (h : drawn words (Exchange.Tenant.ofRecord record) = .ok t) :
    Exchange.Tenant.toRecord t = record.withoutHostKeys ∧
      (Exchange.Tenant.toRecord t = record ↔
        ∀ repo, record.properties.gitRepo = some repo → repo.repo.hostKeys = none) := by
  obtain ⟨id, hdrawn, -, htake⟩ := exists_of_drawnTenant h
  have hgiven : record.id ≠ "" := by
    intro hempty
    have hstart := hkept.id
    rw [hempty] at hstart
    exact absurd hstart (by decide)
  rw [Ident.drawn_normalize hgiven, Ident.started_eq_iff.2 hkept.id] at hdrawn
  cases hdrawn
  have hrefines := Exchange.Tenant.refines_merge (blankTenant record.id) record.properties
  rw [htake] at hrefines
  obtain ⟨shown, hshown, hmerged⟩ := hrefines
  cases hshown
  have hreturned := Exchange.Tenant.merge_blank_eq hkept hmerged
  refine ⟨hreturned, ?_⟩
  rw [hreturned]
  exact withoutHostKeys_eq_iff hkept

/-! #### A tenant with host keys -/

namespace Exchange.Return

/-- A tenant whose git server is known by a key. -/
def tenant : Record.Tenant where
  id := "t-sample"
  properties := {
    displayName := some "Sample Tenant"
    annotations := some (.ofList [("some", .string "value")])
    gitRepo := some {
      repo := {
        url := some "ssh://git@git.example.com/group/repo.git"
        hostKeys := some "git.example.com ssh-ed25519 AAAA"
        repoType := some .auto
        deployKey := some "ssh-ed25519 AAAA" }
      revision := some "v1" }
    globalGitRepoRevision := some "v2" }

/-- What is stored of it. -/
def storedTenant : Resource.Tenant where
  metadata := {
    name := some "t-sample"
    annotations := some (.ofList [("some", "value")]) }
  spec := {
    displayName := "Sample Tenant"
    gitRepoUrl := "ssh://git@git.example.com/group/repo.git"
    gitRepoRevision := "v1"
    globalGitRepoRevision := "v2"
    gitRepoTemplate := some {
      path := "group"
      repoName := "repo"
      displayName := "t-sample"
      deployKeys := .ofList [("steward", ⟨"ssh-ed25519", "AAAA", true⟩)] } }

theorem isKept_tenant : tenant.IsKept where
  id := by decide
  displayName := by decide
  globalUrl := by decide
  globalRevision := by decide
  annotations := by
    intro facts h
    cases h
    refine ⟨by decide, fun name v hv => ?_⟩
    change (if "some" = name then some (Json.Value.string "value") else none) = some v at hv
    split at hv
    · exact ⟨"value", (Option.some.inj hv).symm⟩
    · cases hv
  gitRepo := by
    intro repo h
    cases h
    constructor <;> decide

theorem stored_tenant : drawn (fun _ => 0) (Tenant.ofRecord tenant) = .ok storedTenant := by
  decide +kernel

theorem tenant_comes_back_sample : tenant.IsKept ∧
    drawn (fun _ => 0) (Tenant.ofRecord tenant) = .ok storedTenant ∧
    Tenant.toRecord storedTenant = tenant.withoutHostKeys :=
  ⟨isKept_tenant, stored_tenant, (tenant_comes_back_without_hostKeys isKept_tenant stored_tenant).1⟩

/-- A tenant that gives host keys and is kept otherwise does not come back. -/
theorem tenant_hostKeys_lost : tenant.IsKept ∧
    drawn (fun _ => 0) (Tenant.ofRecord tenant) = .ok storedTenant ∧
    Tenant.toRecord storedTenant ≠ tenant :=
  ⟨isKept_tenant, stored_tenant, by decide +kernel⟩

end Exchange.Return
end Fleet

import Fleet.Proofs.Coherence
import Fleet.Proofs.Service.GivenFacts
import Fleet.Proofs.Service.Tended

/-! # Writing back what was read

A client reads a tenant or a cluster and gives its properties back.  The update succeeds and leaves
the stored object as it was.  This is so for whatever requests stored, in whatever order or
interleaved, and whichever bootstrap tokens were set meanwhile, if the binary64 numbers in the dynamic
facts survive their text form; only a managed repository without a URL is refused, as a tenant may have
whose repository was set up for it.

Main statement: `write_back_changes_nothing`. -/

namespace Fleet

open Resource Store Service

/-! ### What tokens have no part in -/

namespace Service

theorem isCoherent_withToken (c : Cluster) (token : Option BootstrapToken)
    (h : Exchange.Cluster.IsCoherent c) : Exchange.Cluster.IsCoherent (c.withToken token) := h

theorem isDated_withToken (c : Cluster) (token : Option BootstrapToken) (h : c.IsDated) :
    (c.withToken token).IsDated := by
  have hsame : (c.withToken token).status.bind (·.compileMeta) = c.status.bind (·.compileMeta) := by
    unfold Cluster.withToken
    cases c.status <;> rfl
  unfold Cluster.IsDated
  rw [hsame]
  exact h

theorem hasPrintedFacts_withToken (c : Cluster) (token : Option BootstrapToken)
    (h : Exchange.Cluster.HasPrintedFacts c) :
    Exchange.Cluster.HasPrintedFacts (c.withToken token) := h

/-! ### Stored objects -/

/-- What a stored cluster needs for its properties to be given back. -/
structure IsSettled (c : Cluster) : Prop where
  coherent : Exchange.Cluster.IsCoherent c
  dated : c.IsDated
  printed : Exchange.Cluster.HasPrintedFacts c

/-- What requests store is settled, whichever tokens are set. -/
theorem Tended.isSettled {w : World} (h : Tended w) :
    w.store.All Exchange.Tenant.IsCoherent IsSettled := by
  have hcoherent := (h.all (upholds_isCoherent.upholdsFor Errand.Fits) exists_fits_errand
    isCoherent_withToken).2
  have hdated := (h.all (upholds_isDated.upholdsFor Errand.Fits) exists_fits_errand
    isDated_withToken).2
  have hprinted := (h.all upholds_hasPrintedFacts exists_fits_errand
    hasPrintedFacts_withToken).2
  exact ⟨hcoherent.tenants, fun name c hget =>
    ⟨hcoherent.clusters name c hget, hdated.clusters name c hget, hprinted.clusters name c hget⟩⟩

/-- A settled cluster is shown, and its properties can be given back if its facts survive. -/
theorem IsSettled.exists_show? {c : Cluster} (h : IsSettled c)
    (hurl : Exchange.IsLocated c.spec.gitRepoUrl c.spec.gitRepoTemplate) (base : String)
    (now : Instant) : ∃ record, Clusters.show? base now c = .ok record ∧
      (Exchange.Cluster.FactsSurvive c →
        (Exchange.Cluster.take record.properties).apply c = (.ok (), c)) := by
  obtain ⟨record, hrecord⟩ := Exchange.Cluster.exists_toRecord h.dated
  unfold Clusters.show?
  rw [hrecord]
  exact ⟨_, rfl, fun hsurvive => Exchange.Change.result_eq_ok_iff.1
    (Exchange.Cluster.result_take_shown h.coherent hurl h.printed hsurvive h.dated hrecord _)⟩

end Service

/-! ### Result -/

/-- Whatever requests were made and whichever tokens were set, every stored tenant and cluster is
shown, and taking over the properties that are shown, install URL and all, succeeds and leaves it as
it was, unless its repository is managed without a URL; of a cluster the binary64 numbers in its dynamic
facts have to survive their text form. -/
theorem write_back_changes_nothing {w : World} (h : Tended w) :
    (∀ name t, w.store.tenants.get? name = some t →
      Exchange.IsLocated t.spec.gitRepoUrl t.spec.gitRepoTemplate →
      (Exchange.Tenant.take (Exchange.Tenant.toRecord t).properties).apply t = (.ok (), t)) ∧
    ∀ name c, w.store.clusters.get? name = some c →
      Exchange.IsLocated c.spec.gitRepoUrl c.spec.gitRepoTemplate →
      ∀ base now, ∃ record, Clusters.show? base now c = .ok record ∧
        (Exchange.Cluster.FactsSurvive c →
          (Exchange.Cluster.take record.properties).apply c = (.ok (), c)) := by
  have hsettled := h.isSettled
  constructor
  · intro name t hget hurl
    exact Exchange.Change.result_eq_ok_iff.1
      (Exchange.Tenant.result_take_shown (hsettled.tenants name t hget) hurl)
  · intro name c hget hurl base now
    exact (hsettled.clusters name c hget).exists_show? hurl base now

/-! #### A cluster that is given a token -/

namespace Service.Returned

def setting : Setting := ⟨{}, ⟨0, 0⟩, fun _ => 0⟩

def request (method path body : String) : Http.Request where
  method := method
  path := path
  headers := [("authorization", "Bearer abc")]
  body := Text.encode body

/-- A client registers a tenant with a repository. -/
def tenantRequest : Http.Request := request "POST" "/tenants"
  r#"{"id":"t-1","gitRepo":{"url":"ssh://git@h/g/t.git"}}"#

/-- A client registers a cluster with a repository that it may write to. -/
def clusterRequest : Http.Request := request "POST" "/clusters"
  r#"{"id":"c-1","tenant":"t-1","gitRepo":{"url":"ssh://git@h/g/r.git","deployKey":"rsa A"}}"#

/-- A client reports a fact and a compilation. -/
def report : Http.Request := request "PATCH" "/clusters/c-1"
  r#"{"dynamicFacts":{"n":[true]},"compileMeta":{"global":{"gitSha":"abc"}}}"#

def token : BootstrapToken := ⟨"xyz", true, ⟨100, 0⟩⟩

def respondTo (r : Http.Request) (w : World) : World :=
  (((respond setting r).run (fun a => modifyGet (fun w : World => w.answer a))).run w).2

def registered : World := respondTo clusterRequest (respondTo tenantRequest (World.empty "fleet" 1))

/-- The cluster is given a token while the client reports. -/
def world : World :=
  ((Workshop.opening registered (fun _ : Unit => respond setting report)).tendAll
    [.move (.act ()), .token "c-1" (some token), .move (.act ()), .move (.act ()),
      .move (.act ())]).world

def tenant : Tenant where
  metadata := { name := some "t-1", ns := some "fleet", revision := some "1" }
  spec := {
    gitRepoUrl := "ssh://git@h/g/t.git"
    gitRepoTemplate := some { path := "g", repoName := "t", displayName := "t-1" } }

def cluster : Cluster where
  metadata := {
    name := some "c-1"
    ns := some "fleet"
    labels := some (.ofList [("syn.tools/tenant", "t-1")])
    revision := some "5" }
  spec := {
    gitRepoUrl := "ssh://git@h/g/r.git"
    gitRepoTemplate := some {
      path := "g"
      repoName := "r"
      displayName := "c-1"
      deployKeys := .ofList [("steward", ⟨"rsa", "A", true⟩)] }
    tenantRef := ⟨"t-1"⟩
    facts := .ofList [("lieutenant-instance", "")] }
  status := some {
    bootstrapToken := some token
    facts := .ofList [("n", "[true]")]
    compileMeta := some { global := some { gitSha := "abc" } } }

theorem tended_world : Tended world :=
  .interleave _ _ _ (.respond setting clusterRequest (.respond setting tenantRequest
    (.empty "fleet" 1)))

theorem write_back_changes_nothing_returned : Tended world ∧
    world.store.tenants.get? "t-1" = some tenant ∧
    (Exchange.Tenant.take (Exchange.Tenant.toRecord tenant).properties).apply tenant =
      (.ok (), tenant) ∧
    world.store.clusters.get? "c-1" = some cluster ∧
    ∃ record, Clusters.show? "https://h" ⟨0, 0⟩ cluster = .ok record ∧
      record.properties.installUrl = some "https://h/install/steward.json?token=xyz" ∧
      (Exchange.Cluster.take record.properties).apply cluster = (.ok (), cluster) := by
  have htenant : world.store.tenants.get? "t-1" = some tenant := by decide +kernel
  have hcluster : world.store.clusters.get? "c-1" = some cluster := by decide +kernel
  have htenantUrl : Exchange.IsLocated tenant.spec.gitRepoUrl tenant.spec.gitRepoTemplate :=
    fun _ _ _ => by decide
  have hclusterUrl : Exchange.IsLocated cluster.spec.gitRepoUrl cluster.spec.gitRepoTemplate :=
    fun _ _ _ => by decide
  have hsurvive : Exchange.Cluster.FactsSurvive cluster := by
    intro name raw hraw
    change (if "n" = name then some "[true]" else none) = some raw at hraw
    split at hraw
    · cases hraw
      exact Fact.survives_of_no_digit (by decide)
    · cases hraw
  have hinstall : (Clusters.show? "https://h" ⟨0, 0⟩ cluster).map (·.properties.installUrl) =
      .ok (some "https://h/install/steward.json?token=xyz") := by decide +kernel
  obtain ⟨htenants, hclusters⟩ := write_back_changes_nothing tended_world
  obtain ⟨record, hshow, htake⟩ := hclusters "c-1" cluster hcluster hclusterUrl "https://h" ⟨0, 0⟩
  rw [hshow] at hinstall
  exact ⟨tended_world, htenant, htenants "t-1" tenant htenant htenantUrl, hcluster, record, hshow,
    Except.ok.inj hinstall, htake hsurvive⟩

end Service.Returned
end Fleet

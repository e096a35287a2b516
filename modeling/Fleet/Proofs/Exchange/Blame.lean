import Fleet.Proofs.Exchange.Coherence
import Fleet.Proofs.Ident
import Fleet.Proofs.Service.Prepare

/-! # Who is to blame for a failed change

Whatever a client gives: if taking it over fails then the client is to blame
(`ChangeError.isClientError`).  There are two reasons for which it would not be.  No identifier might
be drawn, but one always is (`Ident.exists_drawn_normalize`); and stored compile metadata might have
no public form, but a change does not look at these. -/

namespace Fleet

open Resource

/-- There is an identifier for every new object, given or drawn. -/
theorem Ident.exists_drawn_normalize {start : String}
    (hstart : start = tenantStart ∨ start = clusterStart) (words : Service.Words) (id : String) :
    ∃ name, Service.drawn words (normalize id start) = .ok name := by
  by_cases hempty : id = ""
  · unfold Service.drawn normalize
    rw [if_pos (String.isEmpty_iff.2 hempty), run_generate hstart]
    exact ⟨_, rfl⟩
  · exact ⟨_, drawn_normalize hempty⟩

namespace Exchange

open Record Result

/-- The change fails through the client only. -/
abbrev BlamesClient {α : Type} (x : Except ChangeError α) : Prop :=
  FailsOnly (fun e : ChangeError => e.isClientError = true) x

/-! ### Taking properties over -/

theorem blamesClient_addDeployKey (template : Option RepoTemplate) (key : String) :
    BlamesClient (addDeployKey template key) := by
  unfold addDeployKey
  split
  · exact failsOnly_error rfl
  · split
    · split
      · exact failsOnly_ok _
      · exact failsOnly_error rfl
    · exact failsOnly_error rfl

theorem blamesClient_templateAfter (repo : Option GitRepo) (url name : String)
    (template : Option RepoTemplate) : BlamesClient (templateAfter repo url name template) := by
  cases repo with
  | none => exact failsOnly_ok _
  | some repo =>
      have hurl : ∀ e, (ChangeError.invalidRepoUrl e).isClientError = true := fun _ => rfl
      refine (failsOnly_mapError hurl _).bind (fun t => ?_)
      split
      · exact failsOnly_ok _
      · exact (blamesClient_addDeployKey t _).bind (fun _ => failsOnly_ok _)

theorem Cluster.blamesClient_compileMeta (report : CompileReport) :
    BlamesClient (compileMeta report) := by
  have hreport : ∀ e, (ChangeError.invalidCompileMeta e).isClientError = true := fun _ => rfl
  exact failsOnly_mapError hreport _

theorem Cluster.blamesClient_take (p : ClusterProperties) (c : Resource.Cluster) :
    BlamesClient ((take p).result c) := by
  rw [result_take]
  refine (blamesClient_templateAfter _ _ _ _).bind (fun t => FailsOnly.bind ?_ (fun _ => failsOnly_ok _))
  cases p.compileMeta with
  | none => exact failsOnly_ok _
  | some report =>
      rw [Option.mapM_some]
      exact (blamesClient_compileMeta report).bind (fun _ => failsOnly_ok _)

theorem Tenant.blamesClient_take (p : TenantProperties) (t : Resource.Tenant) :
    BlamesClient ((take p).result t) := by
  rw [result_take]
  exact (blamesClient_templateAfter _ _ _ _).bind (fun _ => failsOnly_ok _)

theorem Tenant.blamesClient_complete (d : Defaults) (t : Resource.Tenant) :
    BlamesClient ((complete d).result t) := by
  rw [result_complete]
  split
  · split
    · exact failsOnly_ok _
    · exact failsOnly_error rfl
  · exact failsOnly_ok _

/-! ### New objects -/

theorem Cluster.blamesClient_ofRecord (words : Service.Words) (record : Record.Cluster) :
    BlamesClient (Service.drawn words (ofRecord record)) := by
  obtain ⟨id, hid⟩ := Ident.exists_drawn_normalize (Or.inr rfl) words record.id
  rw [Service.drawn_ofClusterRecord, hid]
  dsimp only [ofProperties]
  split
  · exact blamesClient_take _ _
  · exact failsOnly_error rfl

theorem Tenant.blamesClient_ofRecord (words : Service.Words) (record : Record.Tenant) :
    BlamesClient (Service.drawn words (ofRecord record)) := by
  obtain ⟨id, hid⟩ := Ident.exists_drawn_normalize (Or.inl rfl) words record.id
  rw [Service.drawn_ofTenantRecord, hid]
  dsimp only [ofProperties]
  split
  · exact blamesClient_take _ _
  · exact failsOnly_error rfl

end Exchange

namespace Service

theorem blamesClient_prepareTenant (config : Config) (words : Words) (record : Record.Tenant) :
    Exchange.BlamesClient (Tenants.prepare config words record) :=
  (Exchange.Tenant.blamesClient_ofRecord words record).bind
    (fun _ => Exchange.Tenant.blamesClient_complete _ _)

/-- A new cluster that cannot be made is a bad request. -/
theorem status_of_prepareCluster (x : Clusters.Context) (record : Record.Cluster) :
    Result.FailsOnly (fun r : Refusal => r.status = 400) (Clusters.prepare x record) := by
  unfold Clusters.prepare
  split
  · exact Result.failsOnly_error rfl
  · intro r hr
    cases hdrawn : drawn x.words (Exchange.Cluster.ofRecord record) with
    | ok c =>
        rw [hdrawn] at hr
        cases hr
    | error e =>
        rw [hdrawn] at hr
        cases hr
        have hclient : e.isClientError = true :=
          Exchange.Cluster.blamesClient_ofRecord x.words record e hdrawn
        exact if_pos hclient

end Service
end Fleet

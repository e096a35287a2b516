import Fleet.Proofs.Ident
import Fleet.Proofs.Replacement

/-! # Repositories of new tenants

Where the client names no repository URL, a new tenant gets a repository of its own under the path
that the service is set up with.  For this it must name nothing else of a repository either: its
properties are taken over first, and a type or a deploy key is refused there for want of a URL
(`TenantProperties.obstacle`), before the path is looked at.

Main statement: `tenant_gets_own_repository`. -/

namespace Fleet

open Http Record Resource Store Service

/-! ### Properties without a URL -/

/-- The properties of a tenant whose repository has no URL and is not to be left alone; a deploy key
is well formed. -/
structure Record.TenantProperties.WantsOwnRepo (p : TenantProperties) : Prop where
  url : (p.gitRepo.bind (·.repo.url)).getD "" = ""
  repoType : p.gitRepo.bind (·.repo.repoType) ≠ some .unmanaged
  deployKey : ∀ words, p.gitRepo.bind (·.repo.deployKey) = some words →
    ∃ type key, Exchange.readDeployKey words = some (type, key)

/-- What is refused of a repository without a URL: first the type, then the deploy key. -/
def Record.TenantProperties.obstacle (p : TenantProperties) : Option Exchange.ChangeError :=
  if (p.gitRepo.bind (·.repo.repoType)).isSome then
    some (.invalidRepoUrl ⟨"", "a managed repository requires a URL"⟩)
  else (p.gitRepo.bind (·.repo.deployKey)).map (fun _ => .unmanagedRepoDeployKey)

namespace Exchange

/-- Without a URL there is no template, and nothing that would need one is taken over. -/
theorem templateAfter_of_wantsOwnRepo {p : TenantProperties} (h : p.WantsOwnRepo) (name : String) :
    templateAfter (p.gitRepo.map (·.repo)) "" name none =
      p.obstacle.elim (.ok none) .error := by
  obtain ⟨hurl, htype, hkey⟩ := h
  unfold TenantProperties.obstacle
  cases hrepo : p.gitRepo with
  | none => rfl
  | some repo =>
      rw [hrepo] at hurl htype hkey
      obtain ⟨⟨url, hostKeys, type, key⟩, revision⟩ := repo
      change nextTemplate ⟨url, hostKeys, type, key⟩ (url.getD "") name none = _
      have hurl : url.getD "" = "" := hurl
      rw [hurl]
      cases type with
      | some type =>
          cases type with
          | auto => rfl
          | unmanaged => exact absurd rfl htype
      | none =>
          have hupdate : updateTemplate none ⟨nonEmpty "", hostKeys, none, key⟩ url.isSome name =
              .ok none := by cases url <;> rfl
          rw [nextTemplate_of_updateTemplate hupdate]
          cases key with
          | none => rfl
          | some words =>
              obtain ⟨keyType, key, hread⟩ := hkey words rfl
              change (addDeployKey none words).map some = _
              unfold addDeployKey
              rw [hread]
              rfl

/-- The template of a tenant with a repository of its own. -/
def ownTemplate (config : Config) (path id : String) : RepoTemplate :=
  { RepoTemplate.managed path id with
    displayName := id
    apiSecretRef := { name := config.apiSecretRefName.getD "" } }

end Exchange

namespace Service

open Exchange

section Prepare

variable {config : Config} {words : Words} {record : Record.Tenant} {id : String}

theorem prepare_eq (hid : drawn words (Ident.normalize record.id Ident.tenantStart) = .ok id)
    (hvalid : Ident.isValid id = true) :
    Tenants.prepare config words record =
      (Exchange.Tenant.take record.properties).result (blankTenant id) >>= fun t =>
        (Exchange.Tenant.complete (Tenants.defaults config)).result
          { t with metadata.ns := some config.ns } := by
  unfold Tenants.prepare
  rw [drawn_ofTenantRecord, hid]
  dsimp only
  unfold Exchange.Tenant.ofProperties
  rw [if_pos hvalid]
  rfl

/-- A tenant that is refused is refused for its properties. -/
theorem prepare_of_obstacle
    (hid : drawn words (Ident.normalize record.id Ident.tenantStart) = .ok id)
    (hvalid : Ident.isValid id = true) (h : record.properties.WantsOwnRepo) {e : ChangeError}
    (he : record.properties.obstacle = some e) :
    Tenants.prepare config words record = .error e := by
  rw [prepare_eq hid hvalid, Exchange.Tenant.result_take]
  have htemplate : templateAfter (record.properties.gitRepo.map (·.repo))
      (blankTenant id).spec.gitRepoUrl (blankTenant id).name (blankTenant id).spec.gitRepoTemplate =
      .error e := by
    have hafter := templateAfter_of_wantsOwnRepo h (blankTenant id).name
    rw [he] at hafter
    exact hafter
  rw [htemplate]
  rfl

/-- Any other one gets a repository of its own. -/
theorem exists_prepare {path : String} (hpath : config.tenantRepoPath = some path)
    (hid : drawn words (Ident.normalize record.id Ident.tenantStart) = .ok id)
    (hvalid : Ident.isValid id = true) (h : record.properties.WantsOwnRepo)
    (hnone : record.properties.obstacle = none) :
    ∃ given, Tenants.prepare config words record = .ok given ∧ given.name = id ∧
      given.spec.gitRepoTemplate = some (ownTemplate config path id) := by
  have htake : (Exchange.Tenant.take record.properties).result (blankTenant id) =
      .ok (Exchange.Tenant.amended record.properties none (blankTenant id)) := by
    refine Exchange.Tenant.result_take_of ?_
    have hafter := templateAfter_of_wantsOwnRepo h (blankTenant id).name
    rw [hnone] at hafter
    exact hafter
  have hurl : (Exchange.Tenant.amended record.properties none (blankTenant id)).spec.gitRepoUrl =
      "" := h.url
  rw [prepare_eq hid hvalid, htake]
  change ∃ given, (Exchange.Tenant.complete (Tenants.defaults config)).result _ = .ok given ∧ _
  rw [Exchange.Tenant.result_complete, if_pos (String.isEmpty_iff.2 hurl)]
  unfold Tenants.defaults
  rw [hpath]
  refine ⟨_, rfl, ?_⟩
  unfold Exchange.Tenant.withSecret ownTemplate
  cases config.apiSecretRefName <;> exact ⟨rfl, rfl⟩

end Prepare

/-! ### Requests for new tenants -/

section Tasks

variable {w : World} {client : Client} {config : Config} {words : Words} {record : Record.Tenant}

theorem leads_create_refused {e : ChangeError} (h : Tenants.prepare config words record = .error e) :
    Leads w (fun refusal w' => refusal = .change e ∧ w' = w) (fun _ _ => False)
      (Tenants.create config words client record) := by
  unfold Tenants.create
  rw [h]
  exact leads_throw ⟨rfl, rfl⟩

/-- A new tenant is stored unless there is one of its name. -/
theorem leads_create {given : Resource.Tenant} (h : Tenants.prepare config words record = .ok given)
    (hfree : w.store.tenants.get? given.name = none) :
    Leads w (fun _ _ => False) (fun _ w' => w'.store = (w.store.writeTenant given).2)
      (Tenants.create config words client record) := by
  have hanswer : w.store.answer (.createTenant given) =
      Memory.written (w.store.writeTenant given) := by
    rw [Memory.answer, Memory.createTenant, Dict.contains_eq_false_iff.2 hfree]
    exact if_neg Bool.false_ne_true
  unfold Tenants.create
  rw [h]
  refine Leads.bind (M := fun t w' => t = given ∧ w' = w) (leads_pure ⟨rfl, rfl⟩) ?_
  rintro t w' ⟨ht, hw⟩
  rw [ht, hw]
  refine Leads.bind (M := fun _ w' => w'.store = (w.store.writeTenant given).2)
    (leads_ask (c := .createTenant given) ?_ ?_) ?_
  · intro e he
    rw [hanswer] at he
    cases he
  · intro _ _
    change (w.store.answer (.createTenant given)).2 = _
    rw [hanswer]
    rfl
  · intro _ w' hstore
    exact leads_pure hstore

end Tasks

section Requests

variable {w : World} {s : Setting} {r : Http.Request} {token : String} {record : Record.Tenant}

theorem method_of_createTenant {route : Route}
    (h : route.operation? r.method = some .createTenant) : r.method = "POST" := by
  obtain ⟨⟨method, o⟩, hfind, rfl⟩ := Option.map_eq_some_iff.1 h
  have hmem := List.mem_of_find?_eq_some hfind
  have hserved := List.find?_some hfind
  have hpost : method = "POST" := by
    cases route with
    | tenants => simpa [Route.operations] using hmem
    | _ => simp [Route.operations] at hmem
  subst hpost
  dsimp only at hserved
  split at hserved
  · exact absurd hserved (by decide)
  · exact (beq_iff_eq.1 hserved).symm

/-- The response to a request for a new tenant is sent as it is. -/
theorem finish_of_createTenant (he : errand? s r = some (.createTenant s.config s.words record))
    (status : Nat) (v : Json.Value) :
    finish r (Route.of? r.path) (.json status v) = .json status v := by
  obtain ⟨route, hroute, he⟩ := Option.bind_eq_some_iff.1 he
  obtain ⟨o, ho, he⟩ := Option.bind_eq_some_iff.1 he
  have hoperation : o = .createTenant := by
    cases o with
    | createTenant => rfl
    | health | metrics | install | listTenants => cases he
    | _ => simp [operationErrand?, Option.bind_eq_some_iff] at he
  subst hoperation
  have hmethod := method_of_createTenant ho
  unfold finish
  rw [hroute, Option.bind_some, ho, hmethod]
  rfl

/-- A caller's request for a new tenant is answered as its task ends. -/
theorem respond_createTenant (he : errand? s r = some (.createTenant s.config s.words record))
    (hacts : r.ActsAs (some token)) (hfree : w.outage = none)
    {R : Refusal → World → Prop} {D : Record.Tenant → World → Prop}
    (hcreate : ∀ client w', w'.store = w.store →
      Leads w' R D (Tenants.create s.config s.words client record)) :
    (∃ e, R e (w.run (respond s r)).2 ∧ (w.run (respond s r)).1 = e.response) ∨
      ∃ t, D t (w.run (respond s r)).2 ∧ (w.run (respond s r)).1 = tenantResponse 201 t := by
  have hends := (leads_served he ⟨.tenant, fun _ => rfl, fun _ => rfl⟩ hacts (Or.inr hfree)
    hcreate).respond
  obtain ⟨e, hrefused, hresponse⟩ | ⟨_, ⟨t, hdone, rfl⟩, hresponse⟩ := hends
  · exact Or.inl ⟨e, hrefused, hresponse.trans (finish_of_createTenant he _ _)⟩
  · exact Or.inr ⟨t, hdone, hresponse.trans (finish_of_createTenant he _ _)⟩

/-- A tenant that meets an obstacle is not stored. -/
theorem refused_of_obstacle (he : errand? s r = some (.createTenant s.config s.words record))
    (hacts : r.ActsAs (some token)) (hfree : w.outage = none) {id : String}
    (hid : drawn s.words (Ident.normalize record.id Ident.tenantStart) = .ok id)
    (hvalid : Ident.isValid id = true) (hwants : record.properties.WantsOwnRepo) {e : ChangeError}
    (hobstacle : record.properties.obstacle = some e) :
    (w.run (respond s r)).1 = (Refusal.change e).response ∧
      (w.run (respond s r)).2.store = w.store := by
  have hends := respond_createTenant he hacts hfree
    (R := fun refusal w' => refusal = .change e ∧ w'.store = w.store) (D := fun _ _ => False)
    (fun client w' hstore =>
      (leads_create_refused (prepare_of_obstacle hid hvalid hwants hobstacle)).mono
        (fun refusal w'' h => ⟨h.1, (congrArg World.store h.2).trans hstore⟩) (fun _ _ h => h))
  obtain ⟨refusal, ⟨rfl, hstore⟩, hresponse⟩ | ⟨_, hfalse, -⟩ := hends
  · exact ⟨hresponse, hstore⟩
  · exact hfalse.elim

/-- A tenant that meets none is stored with a repository of its own. -/
theorem created_of_free (he : errand? s r = some (.createTenant s.config s.words record))
    (hacts : r.ActsAs (some token)) (hfree : w.outage = none) {path id : String}
    (hpath : s.config.tenantRepoPath = some path)
    (hid : drawn s.words (Ident.normalize record.id Ident.tenantStart) = .ok id)
    (hvalid : Ident.isValid id = true) (hwants : record.properties.WantsOwnRepo)
    (hnone : record.properties.obstacle = none) (hnew : w.store.tenants.get? id = none) :
    (w.run (respond s r)).1.status = 201 ∧ ∃ t,
      (w.run (respond s r)).2.store.tenants.get? id = some t ∧
      t.spec.gitRepoTemplate = some (ownTemplate s.config path id) := by
  obtain ⟨given, hgiven, hname, htemplate⟩ := exists_prepare hpath hid hvalid hwants hnone
  have hends := respond_createTenant he hacts hfree (R := fun _ _ => False)
    (D := fun _ w' => w'.store = (w.store.writeTenant given).2)
    (fun client w' hstore => by
      rw [← hstore]
      exact leads_create hgiven (by rw [hstore, hname, hnew]))
  obtain ⟨_, hfalse, -⟩ | ⟨t, hstore, hresponse⟩ := hends
  · exact hfalse.elim
  refine ⟨congrArg Response.status hresponse,
    { given with metadata := w.store.stamp given.metadata }, ?_, htemplate⟩
  rw [hstore]
  exact (Dict.get?_insert _ _ _ _).trans (if_pos hname)

end Requests

/-- The identifier of a new tenant that gives none, or a valid one. -/
theorem exists_newId (words : Words) {id : String} (h : id = "" ∨
      Ident.isValid (if Ident.tenantStart.toList.isPrefixOf id.toList then id
        else Ident.tenantStart ++ id) = true) :
    ∃ id', drawn words (Ident.normalize id Ident.tenantStart) = .ok id' ∧
      Ident.isValid id' = true := by
  by_cases hempty : id = ""
  · have hdrawn : drawn words (Ident.normalize "" Ident.tenantStart) =
        .ok (Ident.tenantStart ++ ((Ident.slug.run words).run 0).1) := by
      unfold drawn Ident.normalize
      rw [if_pos (by decide), Ident.run_generate (Or.inl rfl)]
    rw [hempty]
    exact ⟨_, hdrawn, (Ident.isSlug_slug words 0).isValid (Or.inl rfl)⟩
  · exact ⟨_, Ident.drawn_normalize hempty, h.resolve_left hempty⟩

end Service

/-! ### Result -/

/-- A client asks for a new tenant and names no repository URL, while the service is set up with a
path for such tenants.  A body that is too long is answered 413, and nothing is stored.  Else, if the
client names neither a type nor a deploy key, and the identifier is free, the tenant is stored with a
managed repository of its own: the path, the identifier of the tenant as name, and the secret that the
service is set up with.  A type and a deploy key are both refused, and nothing is stored. -/
theorem tenant_gets_own_repository {w : World} {s : Setting} {r : Http.Request}
    {record : Record.Tenant} {token path : String} (hroute : Route.of? r.path = some .tenants)
    (hmethod : r.method = "POST") (hbody : readBody Record.Tenant.layout.decode r.body = .ok record)
    (hacts : r.ActsAs (some token)) (hclients : w.outage = none)
    (hpath : s.config.tenantRepoPath = some path)
    (hid : record.id = "" ∨ Ident.isValid (if Ident.tenantStart.toList.isPrefixOf record.id.toList
      then record.id else Ident.tenantStart ++ record.id) = true)
    (hwants : record.properties.WantsOwnRepo) :
    let answer := w.run (respond s r)
    let type := record.properties.gitRepo.bind (·.repo.repoType)
    let deployKey := record.properties.gitRepo.bind (·.repo.deployKey)
    (bodyLimit < r.body.length → answer.1.status = 413 ∧ answer.2.store = w.store) ∧
    (r.body.length ≤ bodyLimit →
      ∃ id, drawn s.words (Ident.normalize record.id Ident.tenantStart) = .ok id ∧
        (type = none → deployKey = none → w.store.tenants.get? id = none →
          answer.1.status = 201 ∧ ∃ t, answer.2.store.tenants.get? id = some t ∧
            t.spec.gitRepoTemplate = some (Exchange.ownTemplate s.config path id)) ∧
        (type = some .auto → answer.2.store = w.store ∧ answer.1.status = 400 ∧
          answer.1 = (Refusal.change
            (.invalidRepoUrl ⟨"", "a managed repository requires a URL"⟩)).response) ∧
        (type = none → deployKey.isSome → answer.2.store = w.store ∧ answer.1.status = 400 ∧
          answer.1 = (Refusal.change .unmanagedRepoDeployKey).response)) := by
  intro answer type deployKey
  have ho : Route.tenants.operation? r.method = some .createTenant := by
    rw [hmethod]
    decide
  refine ⟨respond_tooLong hacts (Or.inr hclients) hroute ho trivial, fun hreceived => ?_⟩
  have he : errand? s r = some (.createTenant s.config s.words record) := by
    simp [errand?, operationErrand?, hroute, ho, receivedBody?_of_le hreceived, hbody,
      Except.toOption]
  obtain ⟨id, hdrawn, hvalid⟩ := exists_newId s.words hid
  have hrefused := fun e => refused_of_obstacle he hacts hclients hdrawn hvalid hwants (e := e)
  have hobstacle : record.properties.obstacle = if type.isSome then
      some (.invalidRepoUrl ⟨"", "a managed repository requires a URL"⟩)
      else deployKey.map (fun _ => .unmanagedRepoDeployKey) := rfl
  refine ⟨id, hdrawn, fun htype hkey hnew => ?_, fun htype => ?_, fun htype hkey => ?_⟩
  · rw [htype, hkey] at hobstacle
    exact created_of_free he hacts hclients hpath hdrawn hvalid hwants hobstacle hnew
  · rw [htype] at hobstacle
    obtain ⟨hresponse, hstore⟩ := hrefused _ hobstacle
    exact ⟨hstore, congrArg Response.status hresponse, hresponse⟩
  · obtain ⟨words, hwords⟩ := Option.isSome_iff_exists.1 hkey
    rw [htype, hwords] at hobstacle
    obtain ⟨hresponse, hstore⟩ := hrefused _ hobstacle
    exact ⟨hstore, congrArg Response.status hresponse, hresponse⟩

/-! #### Tenants without a URL -/

namespace Service.Unnamed

/-- A client asks for a tenant and leaves everything open. -/
def request : Http.Request where
  method := "POST"
  path := "/tenants"
  headers := [("authorization", "Bearer abc")]
  body := Text.encode r#"{"gitRepo":{"url":""}}"#

/-- A client asks for a tenant whose repository is to be managed. -/
def typed : Http.Request :=
  { request with
    body := Text.encode r#"{"id":"t-1","gitRepo":{"type":"auto"}}"# }

/-- The service is set up with a path and a secret. -/
def setting : Setting where
  config := { tenantRepoPath := some "tenants", apiSecretRefName := some "api" }
  now := ⟨0, 0⟩
  words := fun _ => 0

def world : World := World.empty "fleet" 1

def record : Record.Tenant where
  properties := { gitRepo := some { repo := { url := some "" } } }

def typedRecord : Record.Tenant where
  id := "t-1"
  properties := { gitRepo := some { repo := { repoType := some .auto } } }

theorem actsAs_abc {r : Http.Request} (hpath : r.path = "/tenants")
    (hheaders : r.headers = [("authorization", "Bearer abc")]) : r.ActsAs (some "abc") := by
  have haccess : Credential.Access.of "/tenants" = .caller := by decide
  refine ⟨hpath ▸ haccess, "Bearer abc", "abc".toList, ?_, rfl, rfl, by decide⟩
  unfold Http.Request.header?
  rw [hheaders]
  decide +kernel

theorem readBody_request : readBody Record.Tenant.layout.decode request.body = .ok record := by
  decide +kernel

/-- The tenant is stored under an identifier that was drawn, with a repository of its own. -/
theorem tenant_gets_own_repository_unnamed :
    readBody Record.Tenant.layout.decode request.body = .ok record ∧
    (world.run (respond setting request)).1.status = 201 ∧
    ∃ t, (world.run (respond setting request)).2.store.tenants.get? "t-amber-art-0" = some t ∧
      t.spec.gitRepoTemplate = some { RepoTemplate.managed "tenants" "t-amber-art-0" with
        displayName := "t-amber-art-0", apiSecretRef := { name := "api" } } := by
  have hroute : Route.of? request.path = some .tenants := by decide
  have hwants : record.properties.WantsOwnRepo := ⟨rfl, by decide, fun _ h => by cases h⟩
  have hdrawn : drawn setting.words (Ident.normalize "" Ident.tenantStart) =
      .ok "t-amber-art-0" := rfl
  obtain ⟨id, hid, hcreated, -, -⟩ := (tenant_gets_own_repository (w := world) (s := setting) hroute
    rfl readBody_request (actsAs_abc rfl rfl) rfl rfl (Or.inl rfl) hwants).2 (by decide +kernel)
  cases hid.symm.trans hdrawn
  obtain ⟨hstatus, t, hget, htemplate⟩ := hcreated rfl rfl rfl
  exact ⟨readBody_request, hstatus, t, hget, htemplate⟩

/-- A tenant whose repository is to be managed is refused although the service is set up with a
path. -/
theorem typed_refused :
    errand? setting typed = some (.createTenant setting.config setting.words typedRecord) ∧
    typed.ActsAs (some "abc") ∧ typedRecord.properties.WantsOwnRepo ∧
    world.store.tenants.get? "t-1" = none ∧
    (world.run (respond setting typed)).1.status = 400 ∧
    (world.run (respond setting typed)).2.store.tenants.get? "t-1" = none := by
  have hroute : Route.of? typed.path = some .tenants := by decide
  have ho : Route.tenants.operation? typed.method = some .createTenant := by decide
  have hreceived : receivedBody? typed = some typed.body := by decide +kernel
  have hbody : readBody Record.Tenant.layout.decode typed.body = .ok typedRecord := by
    decide +kernel
  refine ⟨?_, actsAs_abc rfl rfl, ⟨rfl, by decide, fun _ h => by cases h⟩, rfl, ?_, ?_⟩
  · simp [errand?, operationErrand?, hroute, ho, hreceived, hbody, Except.toOption]
  · decide +kernel
  · decide +kernel

end Service.Unnamed
end Fleet

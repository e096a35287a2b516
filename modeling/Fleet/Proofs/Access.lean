import Fleet.Proofs.Service.Caller

/-! # No credential, no access

A request without a credential (`Http.Request.IsAnonymous`) is told the same whatever the store
holds, and leaves the world as it is.  What concerns tenants and clusters is served as the client of
the token that the request presents, and not at all without one.

Main statement: `guarded`. -/

namespace Fleet

open Credential Http Resource Service Store

/-- The request presents no token, and does not ask for manifests, for which a bootstrap token is
enough. -/
def Http.Request.IsAnonymous (r : Http.Request) : Prop :=
  (∀ token, ¬ r.Presents token) ∧
    ¬ (r.path = installPath ∧ (r.method = "GET" ∨ r.method = "HEAD"))

namespace Http.Route

/-! ### Operations without a caller -/

theorem eq_metrics_of_operation? {route : Route} {method : String}
    (h : route.operation? method = some .metrics) : route = .metrics := by
  have hall : ∀ e ∈ route.operations, e.2 = .metrics → route = .metrics := by
    cases route <;> simp [operations]
  obtain ⟨e, hfind, he⟩ := Option.map_eq_some_iff.1 h
  exact hall e (List.mem_of_find?_eq_some hfind) he

theorem eq_install_of_operation? {route : Route} {method : String}
    (h : route.operation? method = some .install) :
    route = .install ∧ (method = "GET" ∨ method = "HEAD") := by
  have hall : ∀ e ∈ route.operations, e.2 = .install → route = .install ∧ e.1 = "GET" := by
    cases route <;> simp [operations]
  obtain ⟨e, hfind, he⟩ := Option.map_eq_some_iff.1 h
  obtain ⟨hroute, hget⟩ := hall e (List.mem_of_find?_eq_some hfind) he
  refine ⟨hroute, ?_⟩
  have hserved : e.1 = if method = "HEAD" then "GET" else method := by
    simpa using List.find?_some hfind
  rw [hget] at hserved
  split at hserved
  · next hhead => exact Or.inr hhead
  · exact Or.inl hserved.symm

end Http.Route

namespace Service

/-! ### Anonymous requests -/

section Anonymous

variable {r : Http.Request}

/-- Where no caller is asked for, an anonymous request is shown the counters at most, and those only
where it asks for them. -/
theorem serve_anonymous (s : Setting) (h : r.IsAnonymous) (hopen : Access.of r.path ≠ .caller) :
    (∃ response, serve s r (Route.of? r.path) none = pure response) ∨
      r.path = "/metrics" ∧ serve s r (Route.of? r.path) none = serveAnyone s r .metrics := by
  unfold serve
  cases hroute : Route.of? r.path with
  | none => exact Or.inl ⟨_, rfl⟩
  | some route =>
      dsimp only
      cases ho : route.operation? r.method with
      | none => exact Or.inl ⟨_, rfl⟩
      | some o =>
          have haccess := Route.access_of_operation? ho
          rw [← Route.access_of_route hroute] at haccess
          cases o with
          | health => exact Or.inl ⟨_, rfl⟩
          | metrics =>
              obtain rfl := Route.eq_metrics_of_operation? ho
              exact Or.inr ⟨Route.path_of_metrics hroute, rfl⟩
          | install =>
              obtain ⟨rfl, hmethod⟩ := Route.eq_install_of_operation? ho
              exact absurd ⟨Route.path_of_install hroute, hmethod⟩ h.2
          | _ => exact absurd haccess.symm hopen

/-- An anonymous request is answered at once, or with the counters. -/
theorem respond_anonymous (s : Setting) (h : r.IsAnonymous) :
    (∃ response, respond s r = pure response) ∨
      r.path = "/metrics" ∧ ∃ answer : Counters → Response,
        respond s r = answer <$> Work.readCounters := by
  by_cases hcaller : Access.of r.path = .caller
  · exact Or.inl ⟨_, respond_missing s hcaller h.1⟩
  unfold respond
  dsimp only
  rw [authenticate_anyone s hcaller]
  rcases serve_anonymous s h hcaller with ⟨response, hserve⟩ | ⟨hpath, hserve⟩
  · rw [hserve]
    exact Or.inl ⟨_, rfl⟩
  · rw [hserve]
    exact Or.inr ⟨hpath, _, rfl⟩

end Anonymous

/-! ### Result -/

/-- What a request does and is told, if it gets no access without a credential. -/
structure IsGuarded (s : Setting) (r : Http.Request) : Prop where
  /-- Without a credential nothing is done but to look at the counters. -/
  untouched : r.IsAnonymous → (respond s r).Within (fun a => a = .readCounters)
  /-- The world stays as it is. -/
  unchanged : r.IsAnonymous → ∀ w : World, (w.run (respond s r)).2 = w
  /-- The response does not tell worlds apart, but for their counters. -/
  indistinct : r.IsAnonymous → ∀ w w' : World, r.path ≠ "/metrics" ∨ w.counters = w'.counters →
    (w.run (respond s r)).1 = (w'.run (respond s r)).1
  /-- Where the path is not an open one, the request is told what it misses. -/
  refused : r.IsAnonymous → r.path ∉ openPaths → ¬ installPath.toList <:+ r.path.toList →
    ∀ w : World, (w.run (respond s r)).1.status = 400 ∧ (r.method ≠ "HEAD" →
      (w.run (respond s r)).1.body =
        .json (Record.Reason.layout.encode ⟨"missing or malformed jwt"⟩))
  /-- Tenants and clusters are the callers' only. -/
  protects : ∀ route, Route.of? r.path = some route → route.access = .caller →
    Access.of r.path = .caller
  /-- Their handlers run as the client of the token that the request presents. -/
  identified : ∀ route, Route.of? r.path = some route → route.access = .caller →
    (∀ token, r.Presents token → authenticate s r (some route) = (do
      let client ← Task.of .client
        (← (Work.clientFor token : Work (Except ClientError Client)))
      serve s r (some route) (some client))) ∧
    ((∀ token, ¬ r.Presents token) → authenticate s r (some route) = throw .missingCredential)

theorem access_eq_caller {path : String} (hopen : path ∉ openPaths)
    (hinstall : ¬ installPath.toList <:+ path.toList) : Access.of path = .caller := by
  unfold Access.of
  rw [if_neg (mt List.contains_iff_mem.1 hopen),
    if_neg (mt List.isSuffixOf_iff_suffix.1 hinstall)]

end Service

/-- Whatever a request is like, it gets no access without a credential. -/
theorem guarded (s : Setting) (r : Http.Request) : IsGuarded s r where
  untouched := by
    intro h
    rcases respond_anonymous s h with ⟨response, hrespond⟩ | ⟨-, answer, hrespond⟩ <;> rw [hrespond]
    · trivial
    · exact ⟨rfl, fun _ => trivial⟩
  unchanged := by
    intro h w
    rcases respond_anonymous s h with ⟨response, hrespond⟩ | ⟨-, answer, hrespond⟩ <;>
      rw [hrespond] <;> rfl
  indistinct := by
    intro h w w' hcounters
    rcases respond_anonymous s h with ⟨response, hrespond⟩ | ⟨hpath, answer, hrespond⟩ <;>
      rw [hrespond]
    · rfl
    · have hsame : w.counters = w'.counters := hcounters.resolve_left (fun hne => hne hpath)
      exact congrArg answer hsame
  refused := by
    intro h hopen hinstall w
    rw [respond_missing s (access_eq_caller hopen hinstall) h.1]
    refine ⟨rfl, ?_⟩
    intro hmethod
    have hreason : Refusal.missingCredential.reason = "missing or malformed jwt" :=
      String.toList_injective (String.toList_map.trans (by decide))
    change (if r.method = "HEAD" then Body.empty else
      .json (Record.Reason.layout.encode ⟨Refusal.missingCredential.reason⟩)) = _
    rw [if_neg hmethod, hreason]
  protects := by
    intro route hroute haccess
    exact (Route.access_of_route hroute).trans haccess
  identified := by
    intro route hroute haccess
    have hcaller : Access.of r.path = .caller := (Route.access_of_route hroute).trans haccess
    exact ⟨fun token htoken => authenticate_caller s ⟨hcaller, htoken⟩,
      authenticate_missing s hcaller⟩

/-! #### A list of tenants -/

namespace Service.Outsider

def setting : Setting := ⟨{}, ⟨0, 0⟩, fun _ => 0⟩

/-- A request for all tenants, with some headers. -/
def request (headers : List (String × String)) : Http.Request :=
  { method := "GET", path := "/tenants", headers }

/-- A world with some tenants. -/
def world (tenants : List Tenant) : World :=
  { World.empty "fleet" 1 with
    store := tenants.foldl (fun m t => (m.writeTenant t).2) { ns := "fleet" } }

/-- Without a token nobody learns whether there is a tenant, and with a token its caller does. -/
theorem guarded_outsider :
    (request [("Authorization", "bearer x")]).IsAnonymous ∧
    ((world []).run (respond setting (request [("Authorization", "bearer x")]))).1 =
      ((world [{ metadata := { name := some "t-1" } }]).run
        (respond setting (request [("Authorization", "bearer x")]))).1 ∧
    ((world []).run (respond setting (request [("Authorization", "Bearer x")]))).1 ≠
      ((world [{ metadata := { name := some "t-1" } }]).run
        (respond setting (request [("Authorization", "Bearer x")]))).1 := by
  have hanonymous : (request [("Authorization", "bearer x")]).IsAnonymous := by
    refine ⟨?_, by decide⟩
    intro token htoken
    have hnone : bearerToken? ((request [("Authorization", "bearer x")]).header?
        "authorization") = none := by decide +kernel
    rw [Http.Request.presents_iff, hnone] at htoken
    cases htoken
  refine ⟨hanonymous, ?_, by decide +kernel⟩
  exact (guarded setting _).indistinct hanonymous _ _ (Or.inl (by decide))

end Service.Outsider
end Fleet

import Fleet.Credential.Access
import Fleet.Http.Route
import Fleet.Proofs.Text.Split

/-! # How routes are protected

How a path is protected is decided before the path is looked up among the routes: by a list of
paths and by how a path ends.  Both descriptions of paths agree (`access_of_route`): what routes to
tenants and clusters is protected by the token of the caller, and nothing else. -/

namespace Fleet.Http

open Credential

/-! ### Segments -/

/-- What stands between the slashes of a path. -/
def segments (path : String) : List String :=
  (Text.splitOn (· == '/') path.toList).map String.ofList

/-- A path is what its segments make up. -/
theorem intercalate_segments (path : String) :
    ['/'].intercalate ((segments path).map String.toList) = path.toList := by
  have hpieces : (segments path).map String.toList = path.toList.splitOn '/' := by
    unfold segments
    rw [List.map_map, Text.splitOn_eq_splitOnP, ← List.splitOn_eq_splitOnP]
    exact List.map_id'' (fun cs => String.toList_ofList) _
  rw [hpieces]
  exact List.intercalate_splitOn '/'

theorem segments_injective {path path' : String} (h : segments path = segments path') :
    path = path' := by
  have htext := congrArg (fun l => ['/'].intercalate (l.map String.toList)) h
  simp only [intercalate_segments] at htext
  exact String.toList_injective htext

/-- What ends like the path of manifests has its two last segments. -/
theorem suffix_segments {path : String} (h : installPath.toList <:+ path.toList) :
    ["install", "steward.json"] <:+ segments path := by
  obtain ⟨start, hstart⟩ := h
  have hinstall : installPath.toList = '/' :: "install/steward.json".toList := by decide
  refine ⟨(Text.splitOn (· == '/') start).map String.ofList, ?_⟩
  unfold segments
  rw [← hstart, hinstall, Text.splitOn_append (by decide), List.map_append]
  rfl

namespace Route

/-! ### Routes -/

/-- The segments of the paths of a route. -/
def segments : Route → List String
  | health => ["", "healthz"]
  | metrics => ["", "metrics"]
  | install => ["", "install", "steward.json"]
  | tenants => ["", "tenants"]
  | tenant id => ["", "tenants", id]
  | clusters => ["", "clusters"]
  | cluster id => ["", "clusters", id]
  | compileMeta id => ["", "clusters", id, "compileMeta"]

/-- How the paths of a route are protected. -/
def access : Route → Access
  | health | metrics => .anyone
  | install => .bootstrapToken
  | tenants | tenant _ | clusters | cluster _ | compileMeta _ => .caller

theorem segments_of_route {path : String} {route : Route} (h : of? path = some route) :
    Http.segments path = route.segments := by
  unfold of? at h
  change (Text.splitOn (· == '/') path.toList).map String.ofList = route.segments
  split at h
  all_goals
    try split at h
    all_goals
      cases h
      try assumption

theorem eq_of_segments {path known : String} {route : Route} (h : of? path = some route)
    (hknown : Http.segments known = route.segments) : path = known :=
  segments_injective ((segments_of_route h).trans hknown.symm)

/-- The manifests have one path. -/
theorem path_of_install {path : String} (h : of? path = some .install) : path = installPath :=
  eq_of_segments h (by decide)

theorem path_of_metrics {path : String} (h : of? path = some .metrics) : path = "/metrics" :=
  eq_of_segments h (by decide)

/-- A path that anyone may ask for is one of health, counters or nothing. -/
theorem access_of_openPath {path : String} {route : Route} (h : of? path = some route)
    (hopen : path ∈ openPaths) : route.access = .anyone := by
  have hcases : path = "/healthz" ∨ path = "/metrics" ∨ path = "/openapi.json" ∨ path = "/docs" := by
    simpa [openPaths] using hopen
  rcases hcases with rfl | rfl | rfl | rfl
  · have hroute : of? "/healthz" = some .health := by decide
    rw [hroute] at h
    cases h
    rfl
  · have hroute : of? "/metrics" = some .metrics := by decide
    rw [hroute] at h
    cases h
    rfl
  · have hroute : of? "/openapi.json" = none := by decide
    rw [hroute] at h
    cases h
  · have hroute : of? "/docs" = none := by decide
    rw [hroute] at h
    cases h

/-- Of all routes the manifests' alone ends like their path. -/
theorem eq_install_of_suffix {path : String} {route : Route} (h : of? path = some route)
    (hsuffix : installPath.toList <:+ path.toList) : route = .install := by
  obtain ⟨start, hstart⟩ := suffix_segments hsuffix
  rw [segments_of_route h] at hstart
  -- identifiers are not known, but the last two segments tell the routes apart
  have hlast := congrArg (fun l => l.reverse.take 2) hstart
  simp only [List.reverse_append, List.reverse_cons, List.reverse_nil, List.nil_append,
    List.cons_append, List.take_succ_cons, List.take_zero] at hlast
  cases route <;> simp [Route.segments] at hlast
  rfl

/-- Both descriptions of paths agree: a route is protected as it should be, wherever it is. -/
theorem access_of_route {path : String} {route : Route} (h : of? path = some route) :
    Access.of path = route.access := by
  unfold Access.of
  by_cases hopen : openPaths.contains path = true
  · rw [if_pos hopen]
    exact (access_of_openPath h (List.contains_iff_mem.1 hopen)).symm
  rw [if_neg hopen]
  by_cases hsuffix : installPath.toList.isSuffixOf path.toList = true
  · rw [if_pos hsuffix, eq_install_of_suffix h (List.isSuffixOf_iff_suffix.1 hsuffix)]
    rfl
  · rw [if_neg hsuffix]
    cases route with
    | health =>
        have hpath : path = "/healthz" := eq_of_segments h (by decide)
        rw [hpath] at hopen
        exact absurd (by decide) hopen
    | metrics =>
        rw [path_of_metrics h] at hopen
        exact absurd (by decide) hopen
    | install =>
        rw [path_of_install h] at hsuffix
        exact absurd (by decide) hsuffix
    | _ => rfl

end Route

/-! ### Operations -/

/-- How an operation is protected. -/
def Operation.access : Operation → Access
  | health | metrics => .anyone
  | install => .bootstrapToken
  | _ => .caller

/-- The operations of a route are protected like the route. -/
theorem Route.access_of_operation? {route : Route} {method : String} {o : Operation}
    (h : route.operation? method = some o) : o.access = route.access := by
  have hall : ∀ e ∈ route.operations, e.2.access = route.access := by
    cases route <;> simp [operations, Operation.access, Route.access]
  obtain ⟨e, hfind, rfl⟩ := Option.map_eq_some_iff.1 h
  exact hall e (List.mem_of_find?_eq_some hfind)

end Fleet.Http

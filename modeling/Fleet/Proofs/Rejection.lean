import Fleet.Proofs.Service.Caller
import Fleet.Proofs.Service.Handshake
import Fleet.Proofs.Service.Reachable
import Fleet.Proofs.Service.Sparing

/-! # Refused requests change nothing

Requests are answered one after another.  One that is answered with a status of 400 or above leaves
everything in the store as it was, whatever it is and whatever it is refused for.  The one exception
is a request that also sets what is observed of a cluster, and whose second write conflicts
(`Errand.HalfWritten`).  A change that fails, perhaps half-way, is never stored.

Main statement: `unchanged_of_refused`. -/

namespace Fleet

open Http Record Resource Store Service

namespace Service

/-! ### Responses -/

/-- What a response tells of a store: a request that was refused left it alone, with the one
exception, and no change of one that was not refused has failed. -/
def Tells (errand : Option Errand) (m : Memory) (status : Nat) (m' : Memory) : Prop :=
  400 ≤ status ∧
      (m.HoldsSame m' ∨ status = 409 ∧ ∃ e, errand = some e ∧ e.HalfWritten m m') ∨
    status < 400 ∧ ∀ e error, errand = some e → ¬ e.Fails m error

/-- The task tells of the store what its response does. -/
def IsTelling (errand : Option Errand) (w : World) (t : Task Response) : Prop :=
  Leads w (fun r w' => Tells errand w.store r.status w'.store)
    (fun response w' => Tells errand w.store response.status w'.store) t

section Telling

variable {errand : Option Errand} {w : World} {α ε : Type}

theorem tells_refused {status : Nat} {m m' : Memory} (hstatus : 400 ≤ status)
    (h : m.HoldsSame m') : Tells errand m status m' := Or.inl ⟨hstatus, Or.inl h⟩

theorem tells_of_spares {e : Errand} {status : Nat} {m m' : Memory} (h : e.Spares m status m') :
    Tells (some e) m status m' :=
  Or.inl ⟨h.refused, h.leaves.imp_right (fun hhalf => ⟨hhalf.1, e, rfl, hhalf.2⟩)⟩

theorem isTelling_refused {response : Response} (hstatus : 400 ≤ response.status) :
    IsTelling errand w (pure response) :=
  leads_pure (tells_refused hstatus (Memory.HoldsSame.refl _))

theorem tells_none {status : Nat} {m m' : Memory} (h : m.HoldsSame m') :
    Tells none m status m' := by
  by_cases hstatus : 400 ≤ status
  · exact tells_refused hstatus h
  · exact Or.inr ⟨by omega, fun _ _ he => by cases he⟩

/-- An errand that is rendered. -/
theorem isTelling_render {e : Errand} {t : Client → Task α} {f : α → Response} {client : Client}
    (h : e.Renders t f) (ht : e.IsSparing w (t client)) :
    IsTelling (some e) w (ExceptT.mk (e.reply <$> e.work client)) := by
  refine (h.leads (ht.mono (fun _ _ hspares => tells_of_spares hspares)
    (fun _ _ hdone => hdone))).mono (fun _ _ htells => htells) ?_
  rintro _ w' ⟨a, hdone, rfl⟩
  refine Or.inr ⟨h.status_lt a, ?_⟩
  intro e' error he
  cases he
  exact hdone error

end Telling

/-! ### Requests -/

section Requests

variable {w : World} (s : Setting) (r : Http.Request)

theorem isTelling_serveAnyone (hs : w.store.IsSound) (o : Operation) :
    IsTelling (operationErrand? s r o) w (serveAnyone s r o) := by
  have h200 : 200 < 400 := by decide
  have h500 : 400 ≤ 500 := by decide
  cases o with
  | health => exact leads_pure (Or.inr ⟨by decide, fun _ _ he => by cases he⟩)
  | metrics =>
      refine Leads.bind (M := fun _ _ => True) (leads_lift trivial) ?_
      intro counters w' _
      exact leads_pure (Or.inr ⟨h200, fun _ _ he => by cases he⟩)
  | install =>
      refine (leads_install hs s r).mono ?_ ?_
      · intro e w' hends
        cases hends with
        | noClient error hsame => exact tells_refused h500 hsame
        | refused hsame hrefused => exact tells_refused hrefused.status hsame
      · intro response w' hends
        cases hends
        refine Or.inr ⟨h200, ?_⟩
        intro e error he
        cases he
        exact fun hfails => hfails
  | _ => exact isTelling_refused (by decide)

theorem isTelling_work (hs : w.store.IsSound) (hdated : w.store.IsDated) (client : Client)
    {e : Errand} (hne : ∀ q now, e ≠ .handshake q now) :
    IsTelling (some e) w (ExceptT.mk (e.reply <$> e.work client)) := by
  cases e with
  | listTenants =>
      exact isTelling_render ⟨.tenants, fun _ => rfl, fun _ => rfl⟩
        Errand.isSparing_listTenants
  | getTenant id =>
      exact isTelling_render ⟨.tenant, fun _ => rfl, fun _ => rfl⟩
        (Errand.isSparing_getTenant id)
  | createTenant config words t =>
      exact isTelling_render ⟨.tenant, fun _ => rfl, fun _ => rfl⟩
        (Errand.isSparing_createTenant config words t)
  | updateTenant id p =>
      exact isTelling_render ⟨.tenant, fun _ => rfl, fun _ => rfl⟩
        (Errand.isSparing_updateTenant id p)
  | deleteTenant id =>
      exact isTelling_render ⟨.nothing, fun _ => rfl, fun _ => rfl⟩
        (Errand.isSparing_deleteTenant id)
  | listClusters x q =>
      exact isTelling_render ⟨.clusters, fun _ => rfl, fun _ => rfl⟩
        (Errand.isSparing_listClusters x q)
  | getCluster x id =>
      exact isTelling_render ⟨.cluster, fun _ => rfl, fun _ => rfl⟩
        (Errand.isSparing_getCluster x id)
  | createCluster x c =>
      exact isTelling_render ⟨.cluster, fun _ => rfl, fun _ => rfl⟩
        (Errand.isSparing_createCluster x c)
  | updateCluster x id p =>
      exact isTelling_render ⟨.cluster, fun _ => rfl, fun _ => rfl⟩
        (Errand.isSparing_updateCluster hs hdated x id p)
  | putCluster x id c =>
      exact isTelling_render ⟨.put, fun _ => rfl, fun _ => rfl⟩
        (Errand.isSparing_putCluster hs hdated x id c)
  | deleteCluster id =>
      exact isTelling_render ⟨.nothing, fun _ => rfl, fun _ => rfl⟩
        (Errand.isSparing_deleteCluster id)
  | reportCompilation id report =>
      exact isTelling_render ⟨.nothing, fun _ => rfl, fun _ => rfl⟩
        (Errand.isSparing_reportCompilation id report)
  | handshake q now => exact absurd rfl (hne q now)

theorem isTelling_serve_anyone (hs : w.store.IsSound) :
    IsTelling (errand? s r) w (serve s r (Route.of? r.path) none) := by
  unfold serve errand?
  cases Route.of? r.path with
  | none => exact isTelling_refused (by decide)
  | some route =>
      change IsTelling ((route.operation? r.method).bind (operationErrand? s r)) w _
      dsimp only
      cases route.operation? r.method with
      | none => exact isTelling_refused (by decide)
      | some o => exact isTelling_serveAnyone s r hs o

theorem isTelling_serve_caller (hs : w.store.IsSound) (hdated : w.store.IsDated)
    (hcaller : Credential.Access.of r.path = .caller) (client : Client) :
    IsTelling (errand? s r) w (serve s r (Route.of? r.path) (some client)) := by
  cases he : errand? s r with
  | none =>
      obtain ⟨result, hserve⟩ := exists_serve_eq he hcaller
      rw [hserve]
      cases result with
      | error e => exact tells_none (Memory.HoldsSame.refl _)
      | ok response => exact tells_none (Memory.HoldsSame.refl _)
  | some e =>
      rw [serve_of_errand? he hcaller]
      exact isTelling_work hs hdated client ((access_of_errand? he).1 hcaller)

theorem isTelling_authenticate (hs : w.store.IsSound) (hdated : w.store.IsDated) :
    IsTelling (errand? s r) w (authenticate s r (Route.of? r.path)) := by
  have h500 : 400 ≤ 500 := by decide
  by_cases hcaller : Credential.Access.of r.path = .caller
  · by_cases htoken : ∃ token, r.Presents token
    · obtain ⟨token, htoken⟩ := htoken
      refine leads_caller ⟨hcaller, htoken⟩ ?_ ?_
      · intro error w' _ hstore
        exact tells_refused h500 (hstore ▸ Memory.HoldsSame.refl _)
      · intro client w' hstore
        rw [← hstore] at hs hdated ⊢
        exact isTelling_serve_caller s r hs hdated hcaller client
    · rw [authenticate_missing s hcaller (fun token h => htoken ⟨token, h⟩)]
      exact leads_throw (tells_refused (by decide) (Memory.HoldsSame.refl _))
  · rw [authenticate_anyone s hcaller]
    exact isTelling_serve_anyone s r hs

/-- What the response to a request tells of the store. -/
theorem tells_respond (hs : w.store.IsSound) (hdated : w.store.IsDated) :
    Tells (errand? s r) w.store (w.run (respond s r)).1.status (w.run (respond s r)).2.store := by
  have htells := (isTelling_authenticate s r hs hdated).response
    (D := fun response w' => Tells (errand? s r) w.store response.status w'.store)
  unfold respond
  dsimp only
  rw [World.run_bind]
  exact htells

end Requests

/-! ### Runs -/

/-- What happens next, when requests are answered one after another. -/
inductive Turn where
  | request (s : Setting) (r : Http.Request)
  /-- The next writes of observed states are to conflict. -/
  | conflicts (n : Nat)
  /-- The next client cannot be built. -/
  | outage (e : ClientError)

namespace World

/-- The world after one turn. -/
def turn (w : World) : Turn → World
  | .request s r => (w.run (respond s r)).2
  | .conflicts n => { w with store := { w.store with conflicts := n } }
  | .outage e => { w with outage := some e }

/-- The world after some turns. -/
def after (w : World) (turns : List Turn) : World := turns.foldl turn w

end World

theorem isDated_iff_all {m : Memory} : m.IsDated ↔ m.All (fun _ => True) Cluster.IsDated :=
  ⟨fun h => ⟨fun _ _ _ => trivial, h⟩, fun h => h.clusters⟩

theorem isSound_turn {w : World} (hs : w.store.IsSound) (t : Turn) : (w.turn t).store.IsSound := by
  cases t with
  | request s r =>
      obtain ⟨log, hrecorded⟩ := exists_recorded_respond hs (exists_errand s r).choose_spec
      exact hrecorded.isSound hs
  | conflicts n => exact ⟨hs.tenants, hs.clusters⟩
  | outage e => exact hs

theorem isSound_after {w : World} (hs : w.store.IsSound) (turns : List Turn) :
    (w.after turns).store.IsSound := by
  induction turns generalizing w with
  | nil => exact hs
  | cons t turns ih => exact ih (isSound_turn hs t)

/-- One turn keeps all clusters such that they can be shown. -/
theorem isDated_turn {w : World} (hs : w.store.IsSound) (hdated : w.store.IsDated) (t : Turn) :
    (w.turn t).store.IsDated := by
  cases t with
  | request s r =>
      obtain ⟨log, hrecorded⟩ := exists_recorded_respond hs (exists_errand s r).choose_spec
      exact isDated_iff_all.2 (hrecorded.all hs upholds_isDated (isDated_iff_all.1 hdated))
  | conflicts n => exact hdated
  | outage e => exact hdated

theorem isDated_after {w : World} (hs : w.store.IsSound) (hdated : w.store.IsDated)
    (turns : List Turn) : (w.after turns).store.IsDated := by
  induction turns generalizing w with
  | nil => exact hdated
  | cons t turns ih => exact ih (isSound_turn hs t) (isDated_turn hs hdated t)

end Service

/-- Requests are answered one after another, with a store that was made in any way out of instants
of the calendar, as an empty one is.  Whatever the next request is: if the status of its response is
400 or above, then everything in the store is as it was, unless a cluster was written whose observed
state was to be written next, which conflicted.  If the change that the request asks for fails, then
it is refused, and nothing of it is stored. -/
theorem unchanged_of_refused {start : World} (hbuilt : start.store.Built)
    (hdated : start.store.IsDated) (turns : List Turn) (s : Setting) (r : Http.Request) :
    let w := start.after turns
    let answer := w.run (respond s r)
    (400 ≤ answer.1.status → w.store.HoldsSame answer.2.store ∨
      answer.1.status = 409 ∧ ∃ e, errand? s r = some e ∧ e.HalfWritten w.store answer.2.store) ∧
    ∀ e error, errand? s r = some e → e.Fails w.store error →
      400 ≤ answer.1.status ∧ w.store.HoldsSame answer.2.store := by
  intro w answer
  have hs := isSound_after hbuilt.isSound turns
  have hdated := isDated_after hbuilt.isSound hdated turns
  rcases tells_respond s r hs hdated with ⟨hstatus, hleaves⟩ | ⟨hstatus, hdone⟩
  · refine ⟨fun _ => hleaves, ?_⟩
    intro e error he hfails
    rcases hleaves with hsame | ⟨-, e', he', hhalf⟩
    · exact ⟨hstatus, hsame⟩
    · rw [he] at he'
      cases he'
      exact absurd hfails hhalf.not_fails
  · refine ⟨fun hrefused => absurd hrefused (Nat.not_le.2 hstatus), ?_⟩
    intro e error he hfails
    exact absurd hfails (hdone e error he)

/-! #### An update that is half written -/

namespace Service.HalfUpdate

/-- A client registers a cluster. -/
def registration : Http.Request where
  method := "POST"
  path := "/clusters"
  headers := [("authorization", "Bearer abc")]
  body := Text.encode r#"{"id":"c-1","tenant":"t-1"}"#

/-- A client sets a display name and a dynamic fact. -/
def update : Http.Request where
  method := "PATCH"
  path := "/clusters/c-1"
  headers := [("authorization", "Bearer abc")]
  body := Text.encode r#"{"displayName":"One","dynamicFacts":{"ready":true}}"#

def setting : Setting := ⟨{}, ⟨0, 0⟩, fun _ => 0⟩

/-- A cluster is there, and one conflict is to come. -/
def world : World := (World.empty "fleet" 1).after [.request setting registration, .conflicts 1]

/-- The response to the update, and the world that it leaves. -/
def answer : Response × World := world.run (respond setting update)

/-- The display name and the observed state of the cluster. -/
def shown? (w : World) : Option (String × Option ClusterStatus) :=
  (w.store.clusters.get? "c-1").map (fun c => (c.spec.displayName, c.status))

theorem unchanged_of_refused_update :
    (World.empty "fleet" 1).store.Built ∧ (World.empty "fleet" 1).store.IsDated ∧
      answer.1.status = 409 ∧ shown? world = some ("", none) ∧
      shown? answer.2 = some ("One", none) ∧
      ∃ e, errand? setting update = some e ∧ e.HalfWritten world.store answer.2.store := by
  have hbuilt : (World.empty "fleet" 1).store.Built := .empty "fleet"
  have hdated : (World.empty "fleet" 1).store.IsDated := fun _ _ hget => (by cases hget)
  have hstatus : answer.1.status = 409 := by decide +kernel
  have hbefore : shown? world = some ("", none) := by decide +kernel
  have hafter : shown? answer.2 = some ("One", none) := by decide +kernel
  refine ⟨hbuilt, hdated, hstatus, hbefore, hafter, ?_⟩
  have hrefused : 400 ≤ answer.1.status := by
    rw [hstatus]
    decide
  rcases (unchanged_of_refused hbuilt hdated [.request setting registration, .conflicts 1] setting
    update).1 hrefused with ⟨n, hsame⟩ | ⟨-, hhalf⟩
  · have hsame : shown? answer.2 = shown? world :=
      congrArg (fun m => (m.clusters.get? "c-1").map (fun c => (c.spec.displayName, c.status))) hsame
    rw [hbefore, hafter] at hsame
    simp at hsame
  · exact hhalf

end Service.HalfUpdate
end Fleet

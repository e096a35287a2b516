import Fleet.Proofs.Service.Reachable

/-! # Worlds in which tokens are given out

Bootstrap tokens are not made by requests: they are set from outside, in the observed state of a
cluster, and at any time.  `Tended` are the worlds that requests lead to meanwhile.  A token may be
set between two requests as well as between two steps of requests that are interleaved, where it is
one more thing that happens to the store behind the backs of the parties (`Workshop.tend`).

What errands uphold, and what tokens have no part in, holds of everything that is stored in such a
world (`Tended.all`). -/

namespace Fleet

open Resource Store

/-! ### Tokens -/

/-- The cluster with another bootstrap token, or without one. -/
def Resource.Cluster.withToken (token : Option BootstrapToken) (c : Cluster) : Cluster :=
  { c with status := some { c.status.getD {} with bootstrapToken := token } }

namespace Store.Memory

/-- Sets the bootstrap token of a cluster, if there is one of the name. -/
def setToken (m : Memory) (name : String) (token : Option BootstrapToken) : Memory :=
  match m.clusters.get? name with
  | some c => (m.writeObserved name c (c.withToken token).status).2
  | none => m

theorem steps_setToken {m : Memory} (h : IsSound m) (name : String)
    (token : Option BootstrapToken) : Steps m (m.setToken name token) := by
  unfold setToken
  split
  · next c hget =>
      exact ⟨Alters.refl _ (Nat.le_succ _), Alters.insert _ (h.clusters.named name c hget) rfl⟩
  · exact Steps.refl m

end Store.Memory

namespace Service

variable {ι α : Type} {E : Errand → Prop} {T : Tenant → Prop} {C : Cluster → Prop}

theorem UpholdsFor.all_setToken (hup : UpholdsFor E T C)
    (htoken : ∀ c token, C c → C (c.withToken token)) {m : Memory} (h : m.All T C) (name : String)
    (token : Option BootstrapToken) : (m.setToken name token).All T C := by
  unfold Memory.setToken
  split
  · next c hget =>
      exact ⟨h.tenants, forall_insert h.clusters
        (hup.stampCluster c.metadata.ns _ (htoken c token (h.clusters name c hget)))⟩
  · exact h

/-! ### Tended workshops -/

/-- What happens next, while tokens are given out. -/
inductive Tending (ι : Type) where
  | move (step : Move ι)
  /-- A bootstrap token is set, or taken away. -/
  | token (name : String) (token : Option BootstrapToken)

namespace Workshop

variable [DecidableEq ι]

/-- The workshop after a move or a token. -/
def tend (w : Workshop ι α) : Tending ι → Workshop ι α
  | .move step => w.move step
  | .token name token => { w with world.store := w.world.store.setToken name token }

/-- The workshop after some moves and tokens. -/
def tendAll (w : Workshop ι α) (tendings : List (Tending ι)) : Workshop ι α :=
  tendings.foldl tend w

theorem tendAll_map_move (w : Workshop ι α) (moves : List (Move ι)) :
    w.tendAll (moves.map .move) = w.run moves := List.foldl_map ..

variable {errand : ι → Errand} {ends : ι → History → α → Prop} {w : Workshop ι α}

theorem IsAttended.tend (h : IsAttended errand ends w) (hup : UpholdsFor E T C)
    (he : ∀ i, E (errand i)) (htoken : ∀ c token, C c → C (c.withToken token))
    (hall : w.world.store.All T C) (t : Tending ι) :
    IsAttended errand ends (w.tend t) ∧ (w.tend t).world.store.All T C := by
  cases t with
  | move step =>
      obtain ⟨hnext, hsame | ⟨deed, hadds⟩⟩ := h.move step
      · refine ⟨hnext, ?_⟩
        change (w.move step).world.store.All T C
        rw [hsame]
        exact hall
      · exact ⟨hnext, Remembered.all h.remembered hadds.happens hadds.allows hup he hall⟩
  | token name token =>
      have hsteps := Memory.steps_setToken h.remembered.isSound name token
      exact ⟨⟨h.remembered.steps hsteps, h.keeps⟩, hup.all_setToken htoken hall name token⟩

/-- Whatever the moves and tokens, the properties last. -/
theorem IsAttended.tendAll (h : IsAttended errand ends w) (hup : UpholdsFor E T C)
    (he : ∀ i, E (errand i)) (htoken : ∀ c token, C c → C (c.withToken token))
    (hall : w.world.store.All T C) (tendings : List (Tending ι)) :
    IsAttended errand ends (w.tendAll tendings) ∧ (w.tendAll tendings).world.store.All T C := by
  induction tendings generalizing w with
  | nil => exact ⟨h, hall⟩
  | cons t tendings ih =>
      obtain ⟨hnext, hall⟩ := h.tend hup he htoken hall t
      exact ih hnext hall

end Workshop

/-! ### Tended worlds -/

/-- The worlds that requests lead to, from one with an empty store, while bootstrap tokens are set:
between requests that are answered one after another, and between the steps of requests that are
interleaved in any order. -/
inductive Tended : World → Prop where
  | empty (ns : String) (cacheSize : Nat) : Tended (World.empty ns cacheSize)
  | respond {w : World} (s : Setting) (r : Http.Request) : Tended w →
    Tended (((respond s r).run (fun a => modifyGet (fun w : World => w.answer a))).run w).2
  | token {w : World} (name : String) (token : Option BootstrapToken) : Tended w →
    Tended { w with store := w.store.setToken name token }
  | interleave {w : World} {ι : Type} [DecidableEq ι] (s : ι → Setting) (r : ι → Http.Request)
      (tendings : List (Tending ι)) : Tended w →
    Tended ((Workshop.opening w (fun i => respond (s i) (r i))).tendAll tendings).world

/-- What the errands of requests uphold lasts while requests are interleaved and tokens are set. -/
theorem UpholdsFor.all_interleave {ι : Type} [DecidableEq ι] (hup : UpholdsFor E T C)
    (he : ∀ s r, ∃ e : Errand, (errand? s r).getD e = e ∧ E e)
    (htoken : ∀ c token, C c → C (c.withToken token)) {w : World} (hs : w.store.IsSound)
    (hall : w.store.All T C) (s : ι → Setting) (r : ι → Http.Request)
    (tendings : List (Tending ι)) :
    let w' := ((Workshop.opening w (fun i => respond (s i) (r i))).tendAll tendings).world
    w'.store.IsSound ∧ w'.store.All T C := by
  have herrand := fun i => (he (s i) (r i)).choose_spec
  have hopening : Workshop.IsAttended (fun i => (he (s i) (r i)).choose) _
      (Workshop.opening w (fun i => respond (s i) (r i))) :=
    ⟨.nil hs, fun i => permits_respond (herrand i).1 []⟩
  obtain ⟨hattended, hall⟩ := hopening.tendAll hup (fun i => (herrand i).2) htoken hall tendings
  exact ⟨hattended.remembered.isSound, hall⟩

/-- What errands of requests uphold, and tokens too, holds of all stored objects. -/
theorem Tended.all (hup : UpholdsFor E T C)
    (he : ∀ s r, ∃ e : Errand, (errand? s r).getD e = e ∧ E e)
    (htoken : ∀ c token, C c → C (c.withToken token)) {w : World} (h : Tended w) :
    w.store.IsSound ∧ w.store.All T C := by
  induction h with
  | empty ns cacheSize =>
      exact ⟨(Memory.Built.empty ns).isSound,
        ⟨fun _ _ hget => (by cases hget), fun _ _ hget => (by cases hget)⟩⟩
  | @respond w s r _ ih =>
      -- a request that is answered alone is interleaved with none
      obtain ⟨moves, hmoves⟩ :=
        (Workshop.opening w (fun _ : Unit => Service.respond s r)).exists_moves_run
      have hrun := hup.all_interleave he htoken ih.1 ih.2 (fun _ : Unit => s) (fun _ => r)
        (moves.map .move)
      rw [Workshop.tendAll_map_move, hmoves] at hrun
      exact hrun
  | token name token _ ih =>
      exact ⟨ih.1.steps (Memory.steps_setToken ih.1 name token),
        hup.all_setToken htoken ih.2 name token⟩
  | interleave s r tendings _ ih => exact hup.all_interleave he htoken ih.1 ih.2 s r tendings

end Service
end Fleet

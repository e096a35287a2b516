import Fleet.Proofs.Service.Objects
import Fleet.Proofs.Service.Respond
import Fleet.Proofs.Service.Workshop

/-! # Worlds that requests lead to

`Reachable` are the worlds that requests lead to, from one with an empty store.  What errands uphold
of single objects holds of everything that is stored in such a world (`Reachable.all`). -/

namespace Fleet.Service

open Resource Store

variable {T : Tenant → Prop} {C : Cluster → Prop}

/-- The worlds that requests lead to, from one with an empty store: requests that are answered one
after another, and requests that are interleaved in any order, each in a setting of its own. -/
inductive Reachable : World → Prop where
  | empty (ns : String) (cacheSize : Nat) : Reachable (World.empty ns cacheSize)
  | respond {w : World} (s : Setting) (r : Http.Request) : Reachable w →
    Reachable (((respond s r).run (fun a => modifyGet (fun w : World => w.answer a))).run w).2
  | interleave {w : World} {ι : Type} [DecidableEq ι] (s : ι → Setting) (r : ι → Http.Request)
      (moves : List (Move ι)) : Reachable w →
    Reachable ((Workshop.opening w (fun i => respond (s i) (r i))).run moves).world

/-- Interleaved requests are recorded as the errands that they ask for. -/
theorem exists_recorded_interleave {ι : Type} [DecidableEq ι] {w : World} (hs : w.store.IsSound)
    {s : ι → Setting} {r : ι → Http.Request} {errand : ι → Errand}
    (herrand : ∀ i, (errand? (s i) (r i)).getD (errand i) = errand i) (moves : List (Move ι)) :
    ∃ log : Log ι, Recorded errand w.store log
      ((Workshop.opening w (fun i => respond (s i) (r i))).run moves).world.store := by
  have hopening := Workshop.isOrderly_opening w errand (fun i => permits_respond (herrand i) [])
  exact ⟨_, (hopening.run hs moves).recorded⟩

/-- A request that is answered alone is recorded as the errand that it asks for. -/
theorem exists_recorded_respond {w : World} (hs : w.store.IsSound) {s : Setting}
    {r : Http.Request} {e : Errand} (he : (errand? s r).getD e = e) :
    ∃ log : Log Unit, Recorded (fun _ => e) w.store log
      (((Service.respond s r).run (fun a => modifyGet (fun w : World => w.answer a))).run
        w).2.store := by
  obtain ⟨moves, hmoves⟩ :=
    (Workshop.opening w (fun _ : Unit => Service.respond s r)).exists_moves_run
  have hrecorded := exists_recorded_interleave (w := w) (s := fun _ : Unit => s) (r := fun _ => r)
    hs (fun _ => he) moves
  rw [hmoves] at hrecorded
  exact hrecorded

theorem Reachable.isSound {w : World} (h : Reachable w) : w.store.IsSound := by
  induction h with
  | empty ns cacheSize => exact (Memory.Built.empty ns).isSound
  | respond s r _ ih =>
      obtain ⟨log, hrecorded⟩ := exists_recorded_respond ih (exists_errand s r).choose_spec
      exact hrecorded.isSound ih
  | interleave s r moves _ ih =>
      obtain ⟨log, hrecorded⟩ :=
        exists_recorded_interleave ih (fun i => (exists_errand (s i) (r i)).choose_spec) moves
      exact hrecorded.isSound ih

/-- A property of stores that an empty one has, and that every recorded log keeps, is one of all
stores that requests lead to. -/
theorem Reachable.invariant {P : Memory → Prop} (hempty : ∀ ns, P { ns })
    (hkeeps : ∀ {ι : Type} [DecidableEq ι] {errand : ι → Errand} {start m : Memory} {log : Log ι},
      Recorded errand start log m → start.IsSound → P start → P m)
    {w : World} (h : Reachable w) : P w.store := by
  induction h with
  | empty ns cacheSize => exact hempty ns
  | respond s r hw ih =>
      obtain ⟨log, hrecorded⟩ := exists_recorded_respond hw.isSound (exists_errand s r).choose_spec
      exact hkeeps hrecorded hw.isSound ih
  | interleave s r moves hw ih =>
      obtain ⟨log, hrecorded⟩ :=
        exists_recorded_interleave hw.isSound (fun i => (exists_errand (s i) (r i)).choose_spec) moves
      exact hkeeps hrecorded hw.isSound ih

/-- What errands uphold holds of all stored objects. -/
theorem Reachable.all (hup : Upholds T C) {w : World} (h : Reachable w) : w.store.All T C := by
  refine h.invariant (P := Memory.All T C) ?_ (fun hrecorded hs => hrecorded.all hs hup)
  intro ns
  exact ⟨fun _ _ hget => (by cases hget), fun _ _ hget => (by cases hget)⟩

end Fleet.Service

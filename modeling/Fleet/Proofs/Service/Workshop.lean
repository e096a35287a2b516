import Fleet.Proofs.Service.Keeping
import Fleet.Proofs.Service.Log
import Fleet.Service.World

/-! # Workshops

A `Workshop` is a world with any number of parties that take turns in it, one atomic step at a time,
in any order.  Between their steps other writers give clusters new revisions (`Move.touch`), and the
next writes of observed states may be made to conflict (`Move.conflicts`).

If the programs of the parties keep the contracts of errands, then a move adds an entry that the
contracts allow, and what remains of each program keeps its contract (`Workshop.IsAttended.move`); so
the log of every run is `Recorded` (`Workshop.IsOrderly.run`). -/

namespace Fleet.Service

open Store

variable {ι α : Type}

/-- What happens next. -/
inductive Move (ι : Type) where
  /-- A party takes its next step, if it is not at its end. -/
  | act (party : ι)
  | touch (name : String)
  | conflicts (n : Nat)

/-- A world, what remains of the program of each party, and what happened. -/
structure Workshop (ι α : Type) where
  world : World
  rest : ι → Work α
  log : Log ι := []

namespace Workshop

/-- The world with another store. -/
def putStore (w : Workshop ι α) (deed : Deed ι) (m : Memory) : Workshop ι α :=
  { w with
    world.store := m
    log := ⟨deed, w.world.store, m⟩ :: w.log }

variable [DecidableEq ι]

/-- A party has taken a step and goes on with the answer. -/
def advance (w : Workshop ι α) (i : ι) (a : Action) (next : a.Answer → Work α) :
    Workshop ι α :=
  let (x, world) := w.world.answer a
  { world := world
    rest := fun j => if j = i then next x else w.rest j
    log := ⟨.act i a x, w.world.store, world.store⟩ :: w.log }

/-- The workshop after a move. -/
def move (w : Workshop ι α) : Move ι → Workshop ι α
  | .act i =>
    match w.rest i with
    | .done _ => w
    | .act a next => w.advance i a next
  | .touch name => w.putStore (.touch name) (w.world.store.touchCluster name)
  | .conflicts n => w.putStore (.conflicts n) { w.world.store with conflicts := n }

/-- The workshop after some moves. -/
def run (w : Workshop ι α) (moves : List (Move ι)) : Workshop ι α := moves.foldl move w

/-- Logs grow. -/
theorem exists_log_move (w : Workshop ι α) (step : Move ι) :
    ∃ later, (w.move step).log = later ++ w.log := by
  cases step with
  | act i =>
      unfold move
      dsimp only
      cases w.rest i with
      | done a => exact ⟨[], rfl⟩
      | act a next => exact ⟨[_], rfl⟩
  | touch name => exact ⟨[_], rfl⟩
  | conflicts n => exact ⟨[_], rfl⟩

theorem exists_log_run (w : Workshop ι α) (moves : List (Move ι)) :
    ∃ later, (w.run moves).log = later ++ w.log := by
  induction moves generalizing w with
  | nil => exact ⟨[], rfl⟩
  | cons step moves ih =>
      obtain ⟨first, hfirst⟩ := w.exists_log_move step
      obtain ⟨later, hlater⟩ := ih (w.move step)
      refine ⟨later ++ first, ?_⟩
      rw [List.append_assoc, ← hfirst, ← hlater]
      rfl

/-! ### Moves keep contracts -/

/-- What parties were answered is remembered, and what remains of their programs keeps the
contracts. -/
structure IsAttended (errand : ι → Errand) (ends : ι → History → α → Prop) (w : Workshop ι α) :
    Prop where
  remembered : Remembered w.log w.world.store
  keeps : ∀ i, (w.rest i).Keeps (errand i).contract (ends i) (history i w.log)

/-- One workshop is another one after one more deed, which the errands allow. -/
structure Adds (errand : ι → Errand) (w w' : Workshop ι α) (deed : Deed ι) : Prop where
  log : w'.log = ⟨deed, w.world.store, w'.world.store⟩ :: w.log
  happens : Entry.Happens ⟨deed, w.world.store, w'.world.store⟩
  allows : ∀ i action x, deed = .act i action x → (errand i).allows (history i w.log) action

variable {errand : ι → Errand} {ends : ι → History → α → Prop} {start : Memory}
  {w : Workshop ι α}

theorem store_build (world : World) (identity : Option String) :
    (world.build identity).2.store = world.store := by
  unfold World.build
  cases world.outage <;> rfl

theorem store_remember (world : World) (token : String) (client : Client) :
    (world.remember token client).store = world.store := by
  unfold World.remember
  dsimp only
  split <;> rfl

theorem store_ownClient (world : World) : world.ownClient.2.store = world.store := by
  unfold World.ownClient
  cases world.own with
  | some client => rfl
  | none => exact store_build world none

omit [DecidableEq ι] in
/-- Only calls reach the store. -/
theorem happens_answer (world : World) (i : ι) (a : Action) :
    Entry.Happens ⟨.act i a (world.answer a).1, world.store, (world.answer a).2.store⟩ := by
  cases a with
  | build token => exact store_build world (some token)
  | remember token client => exact store_remember world token client
  | ownClient => exact store_ownClient world
  | call | lookup | count | readCounters => rfl

theorem Adds.remembered {w' : Workshop ι α} {deed : Deed ι} (h : Adds errand w w' deed)
    (hw : Remembered w.log w.world.store) : Remembered w'.log w'.world.store := by
  rw [h.log]
  exact hw.cons h.happens

theorem IsAttended.advance (h : IsAttended errand ends w) {i : ι} {a : Action}
    {next : a.Answer → Work α} (hrest : w.rest i = .act a next) :
    IsAttended errand ends (w.advance i a next) ∧
      Adds errand w (w.advance i a next) (.act i a (w.world.answer a).1) := by
  have hkeeps := h.keeps i
  rw [hrest, Program.keeps_act] at hkeeps
  obtain ⟨hallows, hnext⟩ := hkeeps
  have hadds : Adds errand w (w.advance i a next) (.act i a (w.world.answer a).1) := by
    refine ⟨rfl, happens_answer w.world i a, ?_⟩
    intro j action x hdeed
    cases hdeed
    exact hallows
  have hrelies : Errand.relies (history i w.log) a (w.world.answer a).1 := by
    cases a with
    | call client c => exact h.remembered.relies hallows
    | _ => trivial
  refine ⟨⟨hadds.remembered h.remembered, fun j => ?_⟩, hadds⟩
  by_cases hj : j = i
  · subst hj
    have hlog : history j (w.advance j a next).log =
        ⟨a, (w.world.answer a).1⟩ :: history j w.log := history_cons_self rfl
    have hstep : (w.advance j a next).rest j = next (w.world.answer a).1 := if_pos rfl
    rw [hlog, hstep]
    exact hnext _ hrelies
  · have hlog : history j (w.advance i a next).log = history j w.log := by
      apply history_cons_other
      intro action x hdeed
      cases hdeed
      exact hj rfl
    have hstep : (w.advance i a next).rest j = w.rest j := if_neg hj
    rw [hlog, hstep]
    exact h.keeps j

theorem IsAttended.putStore (h : IsAttended errand ends w) {deed : Deed ι} {m : Memory}
    (hother : ∀ i action x, deed ≠ .act i action x)
    (hhappens : Entry.Happens ⟨deed, w.world.store, m⟩) :
    IsAttended errand ends (w.putStore deed m) ∧ Adds errand w (w.putStore deed m) deed := by
  have hadds : Adds errand w (w.putStore deed m) deed :=
    ⟨rfl, hhappens, fun i action x hdeed => absurd hdeed (hother i action x)⟩
  refine ⟨⟨hadds.remembered h.remembered, fun i => ?_⟩, hadds⟩
  have hlog : history i (w.putStore deed m).log = history i w.log :=
    history_cons_other (fun action x => hother i action x)
  rw [hlog]
  exact h.keeps i

/-- A move adds an entry that the contracts allow, unless the party is at its end, and what remains
keeps the contracts. -/
theorem IsAttended.move (h : IsAttended errand ends w) (step : Move ι) :
    IsAttended errand ends (w.move step) ∧
      (w.move step = w ∨ ∃ deed, Adds errand w (w.move step) deed) := by
  cases step with
  | act i =>
      cases hrest : w.rest i with
      | done a =>
          have hmove : w.move (.act i) = w := by simp only [Workshop.move, hrest]
          rw [hmove]
          exact ⟨h, Or.inl rfl⟩
      | act a next =>
          have hmove : w.move (.act i) = w.advance i a next := by simp only [Workshop.move, hrest]
          obtain ⟨hnext, hadds⟩ := h.advance hrest
          rw [hmove]
          exact ⟨hnext, Or.inr ⟨_, hadds⟩⟩
  | touch name =>
      have hnext : IsAttended errand ends (w.move (.touch name)) ∧
          Adds errand w (w.move (.touch name)) (.touch name) :=
        h.putStore (fun _ _ _ hdeed => by cases hdeed) rfl
      exact ⟨hnext.1, Or.inr ⟨_, hnext.2⟩⟩
  | conflicts n =>
      have hnext : IsAttended errand ends (w.move (.conflicts n)) ∧
          Adds errand w (w.move (.conflicts n)) (.conflicts n) :=
        h.putStore (fun _ _ _ hdeed => by cases hdeed) rfl
      exact ⟨hnext.1, Or.inr ⟨_, hnext.2⟩⟩

/-! ### Runs are recorded -/

/-- What happened is recorded, and what remains keeps the contracts. -/
structure IsOrderly (errand : ι → Errand) (ends : ι → History → α → Prop) (start : Memory)
    (w : Workshop ι α) : Prop where
  recorded : Recorded errand start w.log w.world.store
  keeps : ∀ i, (w.rest i).Keeps (errand i).contract (ends i) (history i w.log)

theorem IsOrderly.move (h : IsOrderly errand ends start w) (hs : start.IsSound) (step : Move ι) :
    IsOrderly errand ends start (w.move step) := by
  have hattended : IsAttended errand ends w := ⟨h.recorded.remembered hs, h.keeps⟩
  obtain ⟨hnext, hsame | ⟨deed, hadds⟩⟩ := hattended.move step
  · rw [hsame]
    exact h
  · refine ⟨?_, hnext.keeps⟩
    rw [hadds.log]
    exact .cons h.recorded hadds.happens hadds.allows

/-- Whatever the moves, the log is recorded and what remains keeps the contracts. -/
theorem IsOrderly.run (h : IsOrderly errand ends start w) (hs : start.IsSound)
    (moves : List (Move ι)) : IsOrderly errand ends start (w.run moves) := by
  induction moves generalizing w with
  | nil => exact h
  | cons step moves ih => exact ih (h.move hs step)

/-- The workshop before the first move. -/
def opening (world : World) (programs : ι → Work α) : Workshop ι α := ⟨world, programs, []⟩

theorem isOrderly_opening (world : World) {programs : ι → Work α} (errand : ι → Errand)
    (hkeeps : ∀ i, (programs i).Keeps (errand i).contract (ends i) []) :
    IsOrderly errand ends world.store (opening world programs) :=
  ⟨Recorded.nil, hkeeps⟩

/-- A workshop in which parties, each as a client of its own, run errands. -/
def ofErrands (world : World) (client : ι → Client) (errand : ι → Errand) : Workshop ι Outcome :=
  opening world (fun i => (errand i).work (client i))

/-- Runs of errands are recorded, and what remains of each errand keeps its contract. -/
theorem isOrderly_run_ofErrands {world : World} (hs : world.store.IsSound) (client : ι → Client)
    (errand : ι → Errand) (moves : List (Move ι)) :
    IsOrderly errand (fun i => (errand i).ends) world.store
      ((ofErrands world client errand).run moves) :=
  (isOrderly_opening world errand (fun i => (errand i).keeps_work (client i) [])).run hs moves

/-- A party that is alone runs its program to the end. -/
theorem exists_moves_run (w : Workshop Unit α) : ∃ moves, (w.run moves).world =
    (((w.rest ()).run (fun a => modifyGet (fun world : World => world.answer a))).run w.world).2 := by
  generalize hp : w.rest () = p
  induction p generalizing w with
  | done a => exact ⟨[], rfl⟩
  | act a next ih =>
      have hmove : w.move (.act ()) = w.advance () a next := by simp only [move, hp]
      obtain ⟨moves, hmoves⟩ := ih (w.world.answer a).1 (w.advance () a next) rfl
      refine ⟨.act () :: moves, ?_⟩
      have hrun : w.run (.act () :: moves) = (w.move (.act ())).run moves := rfl
      rw [hrun, hmove, hmoves]
      rfl

end Workshop
end Fleet.Service

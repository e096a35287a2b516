import Fleet.Proofs.Store.Memory
import Fleet.Service.Refusal
import Fleet.Service.World

/-! # Work that is alone

A program that has a world to itself runs to its end at once (`World.run`).  `Leads` says how a task
ends there: what holds of its refusal, or of its result, and of the world that it leaves.  The rules
take tasks apart step by step. -/

namespace Fleet.Service

open Store

variable {α β ε ε' : Type}

/-! ### Programs -/

namespace World

/-- What a program answers, and the world that it leaves. -/
def run (w : World) (p : Work α) : α × World :=
  (p.run (fun a => modifyGet (fun w : World => w.answer a))).run w

theorem run_bind (w : World) (p : Work α) (f : α → Work β) :
    w.run (p >>= f) = (w.run p).2.run (f (w.run p).1) := by
  induction p generalizing w with
  | done a => rfl
  | act action next ih => exact ih (w.answer action).1 (w.answer action).2

end World

/-! ### Tasks -/

/-- A task that is refused is the last one. -/
theorem World.run_task_bind (w : World) (t : ExceptT ε Work α) (f : α → ExceptT ε Work β) :
    w.run (t >>= f).run =
      match w.run t.run with
      | (.ok a, w') => w'.run (f a).run
      | (.error e, w') => (.error e, w') := by
  have hrun : w.run (t >>= f).run = (w.run t.run).2.run (ExceptT.bindCont f (w.run t.run).1) :=
    w.run_bind t.run (ExceptT.bindCont f)
  rw [hrun]
  generalize w.run t.run = ended
  obtain ⟨result, w'⟩ := ended
  cases result <;> rfl

/-- Work that cannot be refused. -/
theorem World.run_lift (w : World) (p : Work α) :
    w.run (liftM p : ExceptT ε Work α).run = (.ok (w.run p).1, (w.run p).2) :=
  w.run_bind p (fun a => (pure (Except.ok a) : Work (Except ε α)))

/-- Tasks run alike that go on alike from where the first task ends. -/
theorem World.run_task_congr {w : World} {t : ExceptT ε Work α} {f g : α → ExceptT ε Work β}
    (h : ∀ a w', w.run t.run = (.ok a, w') → w'.run (f a).run = w'.run (g a).run) :
    w.run (t >>= f).run = w.run (t >>= g).run := by
  rw [run_task_bind, run_task_bind]
  cases hrun : w.run t.run with
  | mk result w' =>
      cases result with
      | error e => rfl
      | ok a => exact h a w' hrun

/-- How a task ends in a world that it has to itself: `R` holds if it is refused, `D` if it is done. -/
def Leads (w : World) (R : ε → World → Prop) (D : α → World → Prop)
    (t : ExceptT ε Work α) : Prop :=
  match w.run t.run with
  | (.error e, w') => R e w'
  | (.ok a, w') => D a w'

section Rules

variable {w : World} {R : ε → World → Prop} {D : α → World → Prop}

theorem leads_pure {a : α} (h : D a w) : Leads w R D (pure a) := h

theorem leads_throw {e : ε} (h : R e w) : Leads w R D (throw e) := h

theorem Leads.mono {R' : ε → World → Prop} {D' : α → World → Prop}
    {t : ExceptT ε Work α} (h : Leads w R D t)
    (hrefused : ∀ e w', R e w' → R' e w') (hdone : ∀ a w', D a w' → D' a w') :
    Leads w R' D' t := by
  unfold Leads at h ⊢
  generalize w.run t.run = ended at h
  obtain ⟨result, w'⟩ := ended
  cases result with
  | error e => exact hrefused e w' h
  | ok a => exact hdone a w' h

theorem Leads.and {R' : ε → World → Prop} {D' : α → World → Prop} {t : ExceptT ε Work α}
    (h : Leads w R D t) (h' : Leads w R' D' t) :
    Leads w (fun e w' => R e w' ∧ R' e w') (fun a w' => D a w' ∧ D' a w') t := by
  unfold Leads at h h' ⊢
  generalize w.run t.run = ended at h h'
  obtain ⟨result, w'⟩ := ended
  cases result with
  | error e => exact ⟨h, h'⟩
  | ok a => exact ⟨h, h'⟩

theorem Leads.bind {M : α → World → Prop} {L : β → World → Prop} {t : ExceptT ε Work α}
    {f : α → ExceptT ε Work β} (ht : Leads w R M t)
    (hf : ∀ a w', M a w' → Leads w' R L (f a)) : Leads w R L (t >>= f) := by
  unfold Leads at ht ⊢
  rw [World.run_task_bind]
  generalize w.run t.run = ended at ht
  obtain ⟨result, w'⟩ := ended
  cases result with
  | error e => exact ht
  | ok a => exact hf a w' ht

theorem Leads.assoc {γ : Type} {L : γ → World → Prop} {t : ExceptT ε Work α}
    {f : α → ExceptT ε Work β} {g : β → ExceptT ε Work γ} (h : Leads w R L ((t >>= f) >>= g)) :
    Leads w R L (t >>= fun a => f a >>= g) := by
  rw [bind_assoc] at h
  exact h

/-- A result that was worked out without the world. -/
theorem leads_except {r : Except ε α} (herror : ∀ e, r = .error e → R e w)
    (hok : ∀ a, r = .ok a → D a w) : Leads w R D (liftM r : ExceptT ε Work α) := by
  cases r with
  | error e => exact herror e rfl
  | ok a => exact hok a rfl

theorem leads_mapError {r : Except ε' α} {f : ε' → ε} (herror : ∀ e, r = .error e → R (f e) w)
    (hok : ∀ a, r = .ok a → D a w) :
    Leads w R D (liftM (r.mapError f) : ExceptT ε Work α) := by
  cases r with
  | error e => exact herror e rfl
  | ok a => exact hok a rfl

theorem leads_lift {p : Work α} (h : D (w.run p).1 (w.run p).2) :
    Leads w R D (liftM p : ExceptT ε Work α) := by
  unfold Leads
  rw [World.run_lift]
  exact h

/-- Work that may fail, whose result is looked at. -/
theorem leads_result {R' : ε' → World → Prop} {D' : α → World → Prop} {p : Work (Except ε' α)}
    {R : ε → World → Prop} (h : Leads w R' D' (ExceptT.mk p)) :
    Leads w R (fun r w' => (∀ e, r = .error e → R' e w') ∧ ∀ a, r = .ok a → D' a w')
      (liftM p : ExceptT ε Work (Except ε' α)) := by
  refine leads_lift ?_
  unfold Leads at h
  rw [ExceptT.run_mk] at h
  generalize w.run p = ended at h
  obtain ⟨result, w'⟩ := ended
  cases result with
  | error e =>
      refine ⟨?_, fun _ ha => (by cases ha)⟩
      intro _ he
      cases he
      exact h
  | ok a =>
      refine ⟨fun _ he => (by cases he), ?_⟩
      intro _ ha
      cases ha
      exact h

end Rules

/-! ### Questions to the store -/

namespace World

/-- The world after a call. -/
def afterCall (w : World) (c : Call) : World := { w with store := (w.store.answer c).2 }

theorem run_call (w : World) (client : Client) (c : Call) :
    w.run (Work.call client c) = ((w.store.answer c).1, w.afterCall c) := rfl

end World

section Questions

variable {w : World} {client : Client} {c : Call}

theorem leads_ask {R : Refusal → World → Prop} {D : c.Result → World → Prop}
    (herror : ∀ e, (w.store.answer c).1 = .error e → R (.store e) (w.afterCall c))
    (hok : ∀ a, (w.store.answer c).1 = .ok a → D a (w.afterCall c)) :
    Leads w R D (Task.ask client c) := by
  unfold Task.ask
  refine Leads.bind (M := fun r w' => r = (w.store.answer c).1 ∧ w' = w.afterCall c)
    (leads_lift ⟨rfl, rfl⟩) ?_
  rintro r w' ⟨rfl, rfl⟩
  exact leads_mapError herror hok

/-- A cluster is asked for: it is missing, or it is the one that is stored. -/
theorem leads_ask_getCluster {R : Refusal → World → Prop} (id : String)
    (hmissing : w.store.clusters.get? id = none → R (.store (.noObject clusterKind id)) w) :
    Leads w R (fun found w' => w.store.clusters.get? id = some found ∧ w' = w)
      (Task.ask client (.getCluster id)) := by
  have hanswer : (w.store.answer (.getCluster id)).1 =
      Memory.found clusterKind id (w.store.clusters.get? id) := rfl
  refine leads_ask (c := .getCluster id) (fun error herror => ?_) (fun found hfound => ?_)
  · rw [hanswer] at herror
    cases hget : w.store.clusters.get? id with
    | none =>
        rw [hget] at herror
        cases herror
        exact hmissing hget
    | some c =>
        rw [hget] at herror
        cases herror
  · rw [hanswer] at hfound
    cases hget : w.store.clusters.get? id with
    | none =>
        rw [hget] at hfound
        cases hfound
    | some c =>
        rw [hget] at hfound
        cases hfound
        exact ⟨rfl, rfl⟩

/-- A cluster that is there is found. -/
theorem leads_found {R : Refusal → World → Prop} {id : String} {c : Resource.Cluster}
    (h : w.store.clusters.get? id = some c) :
    Leads w R (fun found w' => found = c ∧ w' = w) (Task.ask client (.getCluster id)) := by
  refine (leads_ask_getCluster id (fun hnone => ?_)).mono (fun _ _ hrefused => hrefused) ?_
  · rw [h] at hnone
    cases hnone
  · rintro found w' ⟨hfound, hw⟩
    exact ⟨Option.some.inj (hfound.symm.trans h), hw⟩

theorem leads_ask_handshake {R : Handshake.HandshakeError → World → Prop}
    {D : c.Result → World → Prop}
    (herror : ∀ e, (w.store.answer c).1 = .error e → R (.store e) (w.afterCall c))
    (hok : ∀ a, (w.store.answer c).1 = .ok a → D a (w.afterCall c)) :
    Leads w R D (Handshake.ask client c) := by
  unfold Handshake.ask
  refine Leads.bind (M := fun r w' => r = (w.store.answer c).1 ∧ w' = w.afterCall c)
    (leads_lift ⟨rfl, rfl⟩) ?_
  rintro r w' ⟨rfl, rfl⟩
  exact leads_mapError herror hok

/-- The response at the end of a task. -/
theorem Leads.response {D : Http.Response → World → Prop} {t : Task Http.Response}
    (h : Leads w (fun e w' => D e.response w') D t) :
    D (w.run t.response).1 (w.run t.response).2 := by
  unfold Task.response
  rw [World.run_bind]
  unfold Leads at h
  generalize w.run t.run = ended at h
  obtain ⟨result, w'⟩ := ended
  cases result with
  | error e => exact h
  | ok a => exact h

end Questions

/-! ### Failed calls -/

@[simp] theorem storeStatus_noObject (kind name : String) :
    storeStatus (.noObject kind name) = 404 := rfl

@[simp] theorem storeStatus_modified (kind name : String) :
    storeStatus (.modified kind name) = 409 := rfl

@[simp] theorem storeStatus_taken (kind name : String) :
    storeStatus (.taken kind name) = 409 := rfl

/-- The store in memory fails only because an object is missing, or is there already or changed. -/
theorem storeStatus_of_answer_error {m : Memory} {c : Call} {error : StoreError}
    (h : (m.answer c).1 = .error error) : storeStatus error = 404 ∨ storeStatus error = 409 := by
  have hfound : ∀ {α : Type} {kind name : String} {o : Option α},
      Memory.found kind name o = .error error → storeStatus error = 404 ∨ storeStatus error = 409 := by
    intro α kind name o ho
    cases o with
    | some a => cases ho
    | none => cases ho; simp
  cases c with
  | listTenants | listClusters | listSecrets => cases h
  | getTenant | deleteTenant | getCluster | deleteCluster => exact hfound h
  | createTenant t =>
      simp only [Memory.answer, Memory.createTenant] at h
      split at h <;> cases h
      simp
  | updateTenant t =>
      simp only [Memory.answer, Memory.updateTenant] at h
      split at h
      · cases h; simp
      · split at h <;> cases h
        simp
  | createCluster c =>
      simp only [Memory.answer, Memory.createCluster] at h
      split at h <;> cases h
      simp
  | updateCluster c =>
      simp only [Memory.answer, Memory.updateCluster] at h
      split at h
      · cases h; simp
      · split at h <;> cases h
        simp
  | updateClusterStatus c =>
      simp only [Memory.answer, Memory.updateClusterStatus] at h
      split at h
      · cases h; simp
      · split at h
        · cases h; simp
        · split at h <;> cases h
          simp

/-- What a call to the store in memory fails with is a refusal. -/
theorem status_of_answer_error {m : Memory} {c : Call} {error : StoreError}
    (h : (m.answer c).1 = .error error) : 400 ≤ storeStatus error := by
  rcases storeStatus_of_answer_error h with hstatus | hstatus <;> omega

/-! ### Writes that are attempted again -/

section Attempts

variable {w : World} {client : Client} {α : Type}

/-- A call whose error is looked at. -/
theorem leads_call {c : Call} {R : StoreError → World → Prop} {D : c.Result → World → Prop}
    (herror : ∀ e, (w.store.answer c).1 = .error e → R e (w.afterCall c))
    (hok : ∀ a, (w.store.answer c).1 = .ok a → D a (w.afterCall c)) :
    Leads w R D (ExceptT.mk (Work.call client c)) := by
  unfold Leads
  have hrun : w.run (ExceptT.mk (Work.call client c)).run =
      ((w.store.answer c).1, w.afterCall c) := rfl
  rw [hrun]
  cases hanswer : (w.store.answer c).1 with
  | error e => exact herror e hanswer
  | ok a => exact hok a hanswer

/-- An attempt that fails leaves everything as it was. -/
def IsAttempt (m : Memory) (w : World) (D : α → World → Prop) (p : Work (Except StoreError α)) :
    Prop :=
  Leads w (fun error w' => 400 ≤ storeStatus error ∧ m.HoldsSame w'.store) D (ExceptT.mk p)

theorem isAttempt_call {m : Memory} {c : Call} {D : c.Result → World → Prop}
    (hsame : m.HoldsSame w.store) (hok : ∀ a w', D a w') :
    IsAttempt m w D (Work.call client c) := by
  refine leads_call (fun error herror => ?_) (fun a _ => hok a _)
  exact ⟨status_of_answer_error herror, hsame.trans (Memory.holdsSame_of_error herror)⟩

theorem leads_call_bind {c : Call} {R : StoreError → World → Prop} {D : α → World → Prop}
    {f : c.Answer → Work (Except StoreError α)}
    (h : Leads (w.afterCall c) R D (ExceptT.mk (f (w.store.answer c).1))) :
    Leads w R D (ExceptT.mk (Work.call client c >>= f)) := by
  unfold Leads at h ⊢
  rw [ExceptT.run_mk] at h ⊢
  rw [World.run_bind, World.run_call]
  exact h

theorem isAttempt_call_bind {m : Memory} {c : Call} {D : α → World → Prop}
    {f : c.Answer → Work (Except StoreError α)}
    (h : IsAttempt m (w.afterCall c) D (f (w.store.answer c).1)) :
    IsAttempt m w D (Work.call client c >>= f) := leads_call_bind h

/-- After a conflict there is a second attempt, and no third one. -/
theorem leads_retryOnce {attempt : Nat → Work (Except StoreError α)} {R : StoreError → World → Prop}
    {D : α → World → Prop}
    (h : Leads w (fun e w' => if e.isConflict then Leads w' R D (ExceptT.mk (attempt 1)) else R e w') D
      (ExceptT.mk (attempt 0))) : Leads w R D (ExceptT.mk (Store.retryOnce attempt)) := by
  unfold Store.retryOnce Leads
  unfold Leads at h
  rw [ExceptT.run_mk] at h ⊢
  rw [World.run_bind]
  generalize w.run (attempt 0) = ended at h
  obtain ⟨result, w'⟩ := ended
  cases result with
  | ok a => exact h
  | error error =>
      dsimp only at h ⊢
      by_cases hconflict : error.isConflict = true
      · rw [if_pos hconflict] at h ⊢
        exact h
      · rw [if_neg hconflict] at h ⊢
        exact h

/-- Attempts that end alike in every world, however often. -/
theorem leads_retryOnce_always {attempt : Nat → Work (Except StoreError α)}
    {R : StoreError → Prop} (h : ∀ n w, Leads w (fun e _ => R e) (fun _ _ => True)
      (ExceptT.mk (attempt n))) :
    Leads w (fun e _ => R e) (fun _ _ => True) (ExceptT.mk (Store.retryOnce attempt)) := by
  refine leads_retryOnce ((h 0 w).mono ?_ (fun _ _ hdone => hdone))
  intro error w' hrefused
  split
  · exact h 1 w'
  · exact hrefused

theorem isAttempt_retryOnce {attempt : Nat → Work (Except StoreError α)} {D : α → World → Prop}
    (h : ∀ n w', w.store.HoldsSame w'.store → IsAttempt w.store w' D (attempt n)) :
    IsAttempt w.store w D (Store.retryOnce attempt) := by
  refine leads_retryOnce ((h 0 w (Memory.HoldsSame.refl _)).mono ?_ (fun _ _ hdone => hdone))
  rintro error w' ⟨hstatus, hsame⟩
  split
  · exact h 1 w' hsame
  · exact ⟨hstatus, hsame⟩

/-- The cluster as it is now, for another attempt. -/
theorem isAttempt_getCluster {m : Memory} {id : String} {D : α → World → Prop}
    {f : (Call.getCluster id).Answer → Work (Except StoreError α)} (hsame : m.HoldsSame w.store)
    (hok : ∀ c, IsAttempt m w D (f (.ok c))) (herror : ∀ error, f (.error error) = pure (.error error)) :
    IsAttempt m w D (Work.call client (.getCluster id) >>= f) := by
  refine isAttempt_call_bind ?_
  have hworld : w.afterCall (.getCluster id) = w := rfl
  rw [hworld]
  cases hanswer : (w.store.answer (.getCluster id)).1 with
  | error error =>
      rw [herror]
      exact ⟨status_of_answer_error hanswer, hsame⟩
  | ok c => exact hok c

/-- What a write that was attempted again leaves behind. -/
theorem leads_attempt {D : α → World → Prop} {p : Work (Except StoreError α)}
    {ε : Type} {R : ε → World → Prop} (h : IsAttempt w.store w D p) :
    Leads w R (fun r w' => (∀ error, r = .error error →
      400 ≤ storeStatus error ∧ w.store.HoldsSame w'.store) ∧ ∀ a, r = .ok a → D a w')
      (liftM p : ExceptT ε Work (Except StoreError α)) := leads_result h

end Attempts

end Fleet.Service

import Fleet.Program

/-! # Contracts of programs

A program shares its world with others, so it cannot say what the world is like at its next step.
A `Contract` says what it can: from what it has learnt so far, which answers it *relies* on and
which actions it is *allowed*.  `Program.Keeps` says that a program takes allowed actions only, as
long as the answers are as it relies on, and that it ends as it should.

Main statements: `Program.keeps_bind` puts programs together, and `Program.Keeps.run` says what a
program that keeps a contract does to a world that is alone with it. -/

namespace Fleet

/-- What a program relies on and what it is allowed; `κ` is what it has learnt. -/
structure Contract {Action : Type} (Answer : Action → Type) (κ : Type) where
  /-- What is learnt from an answer. -/
  learn : κ → (action : Action) → Answer action → κ
  /-- The answers that a program relies on. -/
  relies : κ → (action : Action) → Answer action → Prop
  /-- The actions that a program may take. -/
  allows : κ → Action → Prop

namespace Program

variable {Action : Type} {Answer : Action → Type} {α β κ σ : Type}

/-- The program keeps the contract from `k` on, and `ends` holds of what it has learnt at its end
and of its result. -/
def Keeps (c : Contract Answer κ) (ends : κ → α → Prop) : κ → Program Answer α → Prop
  | k, done a => ends k a
  | k, act action next =>
    c.allows k action ∧ ∀ x, c.relies k action x → (next x).Keeps c ends (c.learn k action x)

variable {c : Contract Answer κ} {k : κ}

@[simp] theorem keeps_done {ends : κ → α → Prop} {a : α} :
    (done a : Program Answer α).Keeps c ends k ↔ ends k a := Iff.rfl

theorem keeps_act {ends : κ → α → Prop} {action : Action}
    {next : Answer action → Program Answer α} :
    (act action next).Keeps c ends k ↔ c.allows k action ∧
      ∀ x, c.relies k action x → (next x).Keeps c ends (c.learn k action x) := Iff.rfl

theorem Keeps.mono {ends ends' : κ → α → Prop} {p : Program Answer α}
    (h : p.Keeps c ends k) (he : ∀ k a, ends k a → ends' k a) : p.Keeps c ends' k := by
  induction p generalizing k with
  | done a => exact he k a h
  | act action next ih => exact ⟨h.1, fun x hx => ih x (h.2 x hx)⟩

/-- One program after another: the second one starts where the first one ends. -/
theorem keeps_bind {mid : κ → α → Prop} {ends : κ → β → Prop} {p : Program Answer α}
    {f : α → Program Answer β} (hp : p.Keeps c mid k)
    (hf : ∀ k a, mid k a → (f a).Keeps c ends k) : (p >>= f).Keeps c ends k := by
  induction p generalizing k with
  | done a => exact hf k a hp
  | act action next ih => exact ⟨hp.1, fun x hx => ih x (hp.2 x hx)⟩

theorem keeps_map {ends : κ → β → Prop} {p : Program Answer α} {f : α → β}
    (h : p.Keeps c (fun k a => ends k (f a)) k) : (f <$> p).Keeps c ends k := by
  rw [← bind_pure_comp]
  exact keeps_bind h (fun _ _ h => h)

/-- A program that keeps a contract, run to its end by a world that answers as the contract relies
on: the invariant that ties the world to what has been learnt holds at the end. -/
theorem Keeps.run {ends : κ → α → Prop} {p : Program Answer α}
    {answer : (action : Action) → StateM σ (Answer action)} {invariant : κ → σ → Prop}
    (step : ∀ k s action, invariant k s → c.allows k action →
      c.relies k action ((answer action).run s).1 ∧
        invariant (c.learn k action ((answer action).run s).1) ((answer action).run s).2)
    (h : p.Keeps c ends k) {s : σ} (hs : invariant k s) :
    ∃ k', ends k' ((p.run answer).run s).1 ∧ invariant k' ((p.run answer).run s).2 := by
  induction p generalizing k s with
  | done a => exact ⟨k, h, hs⟩
  | act action next ih =>
      obtain ⟨hrelies, hnext⟩ := step k s action hs h.1
      exact ih _ (h.2 _ hrelies) hnext

/-! ### Actions alone -/

/-- Every action that the program takes, whatever it is answered, is allowed. -/
def Within (allowed : Action → Prop) : Program Answer α → Prop
  | done _ => True
  | act action next => allowed action ∧ ∀ x, (next x).Within allowed

variable {allowed : Action → Prop}

theorem within_bind {p : Program Answer α} {f : α → Program Answer β} (hp : p.Within allowed)
    (hf : ∀ a, (f a).Within allowed) : (p >>= f).Within allowed := by
  induction p with
  | done a => exact hf a
  | act action next ih => exact ⟨hp.1, fun x => ih x (hp.2 x)⟩

/-- A program keeps a contract that allows what it does whatever it has learnt since. -/
theorem Within.keeps {ends : κ → α → Prop} {p : Program Answer α} (invariant : κ → Prop)
    (hlearn : ∀ k action x, invariant k → allowed action → invariant (c.learn k action x))
    (hallows : ∀ k action, invariant k → allowed action → c.allows k action)
    (hends : ∀ k a, invariant k → ends k a) (h : p.Within allowed) (hk : invariant k) :
    p.Keeps c ends k := by
  induction p generalizing k with
  | done a => exact hends k a hk
  | act action next ih =>
      exact ⟨hallows k action hk h.1, fun x _ => ih x (h.2 x) (hlearn k action x hk h.1)⟩

end Program
end Fleet

/-! # Programs

A program acts on a world that it shares with other programs.  Its steps are atomic: between two
of them anything else may happen.  `Program.run` runs one to its end with nothing in between. -/

namespace Fleet

/-- A program with result `α`; `Answer a` is what action `a` answers. -/
inductive Program {Action : Type} (Answer : Action → Type) (α : Type) where
  /-- The program is finished. -/
  | done (result : α)
  /-- It takes a step and goes on with the answer. -/
  | act (action : Action) (next : Answer action → Program Answer α)

namespace Program

variable {Action : Type} {Answer : Action → Type} {α β σ : Type}

/-- One program after another. -/
def bind : Program Answer α → (α → Program Answer β) → Program Answer β
  | done a, f => f a
  | act action next, f => act action (fun x => (next x).bind f)

instance : Monad (Program Answer) where
  pure := done
  bind := bind

/-- The program of a single step. -/
def perform (action : Action) : Program Answer (Answer action) := act action done

/-- Runs a program to its end. -/
def run (answer : (action : Action) → StateM σ (Answer action)) : Program Answer α → StateM σ α
  | done a => pure a
  | act action next => do
    let x ← answer action
    (next x).run answer

theorem bind_done (p : Program Answer α) : p.bind done = p := by
  induction p with
  | done _ => rfl
  | act action next ih => exact congrArg (act action) (funext ih)

theorem bind_assoc {γ : Type} (p : Program Answer α) (f : α → Program Answer β)
    (g : β → Program Answer γ) : (p.bind f).bind g = p.bind (fun a => (f a).bind g) := by
  induction p with
  | done _ => rfl
  | act action next ih => exact congrArg (act action) (funext ih)

instance : LawfulMonad (Program Answer) :=
  LawfulMonad.mk' _
    (fun p => bind_done p)
    (fun _ _ => rfl)
    (fun p f g => bind_assoc p f g)

end Program
end Fleet

import Rollout.World.Basic

/-!
# Rollout.World.Risky — actions that may panic

A panic brings the whole program down in the middle of an action.  It is neither a result nor a fault, so an attempt
does not see it: an action that may panic shows that in its type, and who goes on after it hands the panic on.

* `Risky`: an action that may panic.
* `Risky.lift`: an action that does not.
-/

namespace Rollout

/-- An action that ends with a result, a fault or a panic. -/
def Risky (σ : Type) (α : Type) : Type := Act σ (Except Panic α)

namespace Risky

variable {σ α β : Type}

def pure (a : α) : Risky σ α := Act.pure (.ok a)

/-- Ends in a panic. -/
def panic (p : Panic) : Risky σ α := Act.pure (.error p)

/-- Goes on after an action that may have panicked. -/
def next (f : α → Risky σ β) : Except Panic α → Act σ (Except Panic β)
  | .ok a => f a
  | .error p => panic p

/-- One action after another; a fault or a panic ends both. -/
def bind (x : Risky σ α) (f : α → Risky σ β) : Risky σ β := Act.bind x (next f)

instance : Monad (Risky σ) where
  pure := Risky.pure
  bind := Risky.bind

/-- An action that does not panic. -/
def lift (x : Act σ α) : Risky σ α := Act.bind x Risky.pure

instance : MonadLift (Act σ) (Risky σ) where
  monadLift := lift

/-- What is run on a world and may panic, without faults. -/
def ofRun (x : World σ → Except Panic α × World σ) : Risky σ α := fun w =>
  let (r, w) := x w
  (.ok r, w)

end Risky

end Rollout

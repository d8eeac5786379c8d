import Compositor.Proofs.Host.Relates

/-! A lifted system beside the system itself. A program that runs on the lifted one does what it
does on the other, and leaves the state on top alone. -/

namespace Compositor

variable {m : Type → Type} [Monad m] [LawfulMonad m] {S α β : Type}

theorem pure_eq_lift (value : α) :
    (pure value : StateT S m α) = StateT.lift (pure value) := by
  funext top
  exact (pure_bind value fun value => pure (value, top)).symm

theorem lift_bind (below : m α) (next : α → m β) :
    (StateT.lift below >>= fun value => StateT.lift (next value) : StateT S m β) =
      StateT.lift (below >>= next) := by
  funext top
  change (below >>= fun value => pure (value, top)) >>= _ =
    (below >>= next) >>= fun value => pure (value, top)
  rw [bind_assoc, bind_assoc]
  congr 1
  funext value
  exact pure_bind _ _

/-- A program leaves the state on top alone and otherwise does what another one does. -/
def lifting (S : Type) (m : Type → Type) [Monad m] [LawfulMonad m] : Relates (StateT S m) m where
  holds program below := program = StateT.lift below
  pure := pure_eq_lift
  bind first rest := by rw [first, funext rest, lift_bind]

theorem System.lift_systems (system : System m) : (lifting S m).Systems system.lift system where
  environment? _ := rfl
  kind? _ := rfl
  read _ := rfl
  write _ _ := rfl
  createDirectory _ := rfl
  copy _ _ := rfl
  launch _ := rfl

end Compositor

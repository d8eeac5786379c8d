import Compositor.Publish.Compiler
import Compositor.Publish.Renderer

/-! Which failures the steps of a publication can end with. -/

namespace Compositor

variable {State α β : Type}

/-- Whatever the program fails with is of the kind. -/
def FailsAs (program : Attempt (StateM State) α) (kind : Failure → Prop) : Prop :=
  ∀ before failure, (program.run.run before).1 = .error failure → kind failure

namespace FailsAs

variable {kind : Failure → Prop}

theorem pure (value : α) : FailsAs (Pure.pure value : Attempt (StateM State) α) kind := by
  intro before failure error
  cases error

theorem throw {failure : Failure} (fit : kind failure) :
    FailsAs (MonadExcept.throw failure : Attempt (StateM State) α) kind := by
  intro before failure error
  cases error
  exact fit

theorem bind {program : Attempt (StateM State) α} {next : α → Attempt (StateM State) β}
    (first : FailsAs program kind) (rest : ∀ value, FailsAs (next value) kind) :
    FailsAs (program >>= next) kind := by
  intro before failure error
  rw [ExceptT.run_bind, StateT.run_bind] at error
  have firstFails := first before failure
  generalize program.run.run before = answer at error firstFails
  obtain ⟨outcome | value, after⟩ := answer
  · cases error
    exact firstFails rfl
  · exact rest value after failure error

theorem liftM (program : StateM State α) :
    FailsAs (liftM program : Attempt (StateM State) α) kind := by
  intro before failure error
  cases error

end FailsAs

theorem onPath_failsAs (path : Path) (program : StateM State (Except FileError α)) :
    FailsAs (onPath path program) fun failure => ∃ reason, failure = .io path reason := by
  intro before failure error
  unfold onPath at error
  rw [ExceptT.run_mk, StateT.run_bind] at error
  generalize program.run before = answer at error
  obtain ⟨error | value, after⟩ := answer <;> cases error
  exact ⟨_, rfl⟩

theorem runTool_failsAs (system : System (StateM State)) (failure : Text → Failure)
    (launched name : Text) (launch : Launch) :
    FailsAs (runTool system failure launched name launch) fun problem =>
      ∃ reason, problem = failure reason := by
  intro before problem error
  unfold runTool at error
  rw [ExceptT.run_mk, StateT.run_bind] at error
  generalize (system.launch launch).run before = answer at error
  obtain ⟨launchError | ending, after⟩ := answer
  · cases error
    exact ⟨_, rfl⟩
  · dsimp only [Bind.bind] at error
    split at error <;> cases error
    exact ⟨_, rfl⟩

theorem Compiler.discover_failsAs (system : System (StateM State)) (configured : Option Path) :
    FailsAs (Compiler.discover system configured) (· = Compiler.toolNotFound) := by
  refine FailsAs.bind (FailsAs.liftM _) ?_
  intro named
  rcases named with _ | _ | ⟨first, program⟩
  case some.cons => exact FailsAs.pure _
  all_goals
    cases configured with
    | some program => exact FailsAs.pure _
    | none =>
        refine FailsAs.bind (FailsAs.liftM _) ?_
        intro typst
        cases typst with
        | some program => exact FailsAs.pure _
        | none => exact FailsAs.throw rfl

theorem Renderer.discover_failsAs (system : System (StateM State)) (options : RenderOptions) :
    FailsAs (Renderer.discover system options) (· = Renderer.toolNotFound) := by
  refine FailsAs.bind (FailsAs.liftM _) ?_
  intro named
  generalize (options.command.map Text.words).getD [] = words
  rcases named with _ | _ | ⟨first, program⟩
  case some.cons => exact FailsAs.pure _
  all_goals
    cases words with
    | cons program arguments => exact FailsAs.pure _
    | nil =>
        refine FailsAs.bind (FailsAs.liftM _) ?_
        intro mmdc
        cases mmdc with
        | some program => exact FailsAs.pure _
        | none =>
            refine FailsAs.bind (FailsAs.liftM _) ?_
            intro npx
            cases npx with
            | some program => exact FailsAs.pure _
            | none => exact FailsAs.throw rfl

end Compositor

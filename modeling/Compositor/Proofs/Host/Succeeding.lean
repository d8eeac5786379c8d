import Compositor.Host.Attempt
import Compositor.Host.Machine

/-! When the steps of a publication succeed, and what a program that is launched has done by then. -/

namespace Compositor

variable {State α β : Type}

def Succeeds (program : Attempt (StateM State) α) (before : State) (value : α) (after : State) :
    Prop :=
  program.run.run before = (.ok value, after)

theorem succeeds_bind_iff {first : Attempt (StateM State) α}
    {next : α → Attempt (StateM State) β} {before after : State} {result : β} :
    Succeeds (first >>= next) before result after ↔ ∃ value middle,
      Succeeds first before value middle ∧ Succeeds (next value) middle result after := by
  unfold Succeeds
  rw [ExceptT.run_bind, StateT.run_bind]
  generalize first.run.run before = answer
  obtain ⟨failure | value, middle⟩ := answer
  · constructor
    · nofun
    · rintro ⟨_, _, ⟨⟩, _⟩
  · constructor
    · intro rest
      exact ⟨value, middle, rfl, rest⟩
    · rintro ⟨_, _, ⟨⟩, rest⟩
      exact rest

theorem succeeds_liftM_iff {program : StateM State α} {before after : State} {value : α} :
    Succeeds (liftM program) before value after ↔ program.run before = (value, after) := by
  change Prod.map Except.ok id (program.run before) = (.ok value, after) ↔ _
  obtain ⟨given, later⟩ := program.run before
  constructor <;> rintro ⟨⟩ <;> rfl

theorem succeeds_pure_iff {before after : State} {given value : α} :
    Succeeds (pure given) before value after ↔ value = given ∧ after = before := by
  constructor
  · rintro ⟨⟩
    exact ⟨rfl, rfl⟩
  · rintro ⟨rfl, rfl⟩
    rfl

theorem succeeds_runTool_iff {system : System (StateM State)} {failure : Text → Failure}
    {launched name : Text} {launch : Launch} {before after : State} :
    Succeeds (runTool system failure launched name launch) before () after ↔
      ∃ ending, (system.launch launch).run before = (.ok ending, after) ∧
        ending.status.isSuccess = true := by
  unfold Succeeds runTool
  rw [ExceptT.run_mk, StateT.run_bind]
  generalize (system.launch launch).run before = answer
  obtain ⟨error | ending, middle⟩ := answer
  · constructor
    · nofun
    · rintro ⟨_, ⟨⟩, _⟩
  · dsimp only [Bind.bind]
    split
    next success =>
      constructor
      · rintro ⟨⟩
        exact ⟨ending, rfl, success⟩
      · rintro ⟨_, ⟨⟩, _⟩
        rfl
    next failed =>
      constructor
      · nofun
      · rintro ⟨_, ⟨⟩, success⟩
        exact absurd success failed

namespace Machine

variable {machine : Machine}

theorem launch_ok_iff {launch : Launch} {before after : FileTree} {ending : Ending} :
    (machine.system.launch launch).run before = (.ok ending, after) ↔
      ∃ program, machine.lookUp before launch.program = .ok program ∧
        (machine.execute program.content { launch with program := program.path }).run before =
          (.ok ending, after) := by
  simp only [system, StateT.run_bind, StateT.run_get]
  dsimp only [Bind.bind]
  cases machine.lookUp before launch.program with
  | error error =>
      constructor
      · nofun
      · rintro ⟨_, ⟨⟩, _⟩
  | ok program =>
      constructor
      · intro ran
        exact ⟨program, rfl, ran⟩
      · rintro ⟨_, ⟨⟩, ran⟩
        exact ran

theorem exists?_run (path : Path) (tree : FileTree) :
    (machine.system.exists? path).run tree = ((tree.entryAt? machine.working path).isSome, tree) := by
  simp only [System.exists?, system, StateT.run_bind, StateT.run_get]
  dsimp only [Bind.bind]
  rcases tree.entryAt? machine.working path with _ | _ | _ <;> rfl

end Machine

end Compositor

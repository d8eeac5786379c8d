import Compositor.Proofs.Files.Keeping
import Compositor.Proofs.Host.Succeeding
import Compositor.Proofs.Publish.Course

/-! Rendering the diagrams of a document on the files of a machine. An image counts if something is
at its path once the program has ended well, whoever put it there. -/

namespace Compositor

theorem FileTree.isSome_entryAt?_iff {tree : FileTree} {working : Location} {path : Path} :
    (tree.entryAt? working path).isSome = true ↔
      tree.entryAt? working path = some .directory ∨
        ∃ content, tree.read working path = .ok content := by
  unfold entryAt? read
  cases tree.locate working path with
  | error error => simp
  | ok location =>
      dsimp only
      rcases tree.find? location with _ | _ | _ <;> simp

structure Invocation where
  before : FileTree
  after : FileTree

namespace Invocation

variable {invocation : Invocation} {working : Location} {path : Path}

/-- A file is at the path, and it was not there with these bytes before. -/
def Writes (invocation : Invocation) (working : Location) (path : Path) : Prop :=
  ∃ content, invocation.after.read working path = .ok content ∧
    invocation.before.read working path ≠ .ok content

/-- What is at the path is no file, or it is the file that was there before. Files written again with
the same bytes are not told apart from files that are left alone. -/
def Leaves (invocation : Invocation) (working : Location) (path : Path) : Prop :=
  invocation.after.entryAt? working path = some .directory ∨
    ∃ content, invocation.before.read working path = .ok content ∧
      invocation.after.read working path = .ok content

theorem isSome_iff : (invocation.after.entryAt? working path).isSome = true ↔
    invocation.Writes working path ∨ invocation.Leaves working path := by
  rw [FileTree.isSome_entryAt?_iff]
  constructor
  · rintro (directory | ⟨content, after⟩)
    · exact .inr (.inl directory)
    · by_cases same : invocation.before.read working path = .ok content
      · exact .inr (.inr ⟨content, same, after⟩)
      · exact .inl ⟨content, after, same⟩
  · rintro (⟨content, after, _⟩ | directory | ⟨content, _, after⟩)
    · exact .inr ⟨content, after⟩
    · exact .inl directory
    · exact .inr ⟨content, after⟩

theorem Writes.not_leaves (writes : invocation.Writes working path) :
    ¬invocation.Leaves working path := by
  obtain ⟨content, after, different⟩ := writes
  rintro (directory | ⟨other, before, same⟩)
  · obtain ⟨location, executable, located, file⟩ := FileTree.read_eq_ok_iff.mp after
    simp [FileTree.entryAt?, located, file] at directory
  · rw [after] at same
    cases same
    exact different before

end Invocation

namespace Renderer

def sourcePath (directory : Path) (block : DiagramBlock) : Path :=
  Path.join directory (block.id ++ ".mmd")

def imagePath (directory : Path) (block : DiagramBlock) : Path :=
  Path.join directory (block.id ++ ".png")

section

variable {m : Type → Type} [Monad m]

def prepare (system : System m) (directory : Path) (block : DiagramBlock) : Attempt m Unit := do
  onPath directory (system.createDirectories directory)
  onPath (sourcePath directory block)
    (system.write (sourcePath directory block) block.source.toBytes)

def check (system : System m) (directory : Path) (block : DiagramBlock) :
    Attempt m RenderedDiagram := do
  if ← (system.exists? (imagePath directory block) : m _) then
    return ⟨block.id, imagePath directory block⟩
  else throw (.render (block.id ++ " produced no image at " ++ imagePath directory block))

theorem render_eq [LawfulMonad m] (system : System m) (renderer : Renderer) (directory : Path)
    (block : DiagramBlock) :
    render system renderer directory block = (do
      prepare system directory block
      runTool system .render (renderer.program ++ " (" ++ block.id ++ ")") block.id
        (renderer.launch (sourcePath directory block) (imagePath directory block))
      check system directory block) := by
  unfold prepare
  rw [bind_assoc]
  rfl

end

variable {machine : Machine} {renderer : Renderer} {directory : Path} {block : DiagramBlock}
  {tree : FileTree}

/-- The renderer's program is run for the block, from what is prepared for it, and ends well. -/
structure Runs (machine : Machine) (renderer : Renderer) (directory : Path) (block : DiagramBlock)
    (tree : FileTree) (invocation : Invocation) : Prop where
  prepared : Succeeds (prepare machine.system directory block) tree () invocation.before
  ended : ∃ program ending, machine.lookUp invocation.before renderer.program = .ok program ∧
    (machine.execute program.content
        { renderer.launch (sourcePath directory block) (imagePath directory block) with
          program := program.path }).run invocation.before = (.ok ending, invocation.after) ∧
    ending.status.isSuccess = true

theorem Runs.unique {first second : Invocation}
    (runs : Runs machine renderer directory block tree first)
    (again : Runs machine renderer directory block tree second) : first = second := by
  obtain ⟨before, after⟩ := first
  obtain ⟨before', after'⟩ := second
  obtain ⟨prepared, program, ending, found, ran, -⟩ := runs
  obtain ⟨prepared', program', ending', found', ran', -⟩ := again
  dsimp only at *
  have same : before = before' := congrArg Prod.snd (prepared.symm.trans prepared')
  subst same
  obtain rfl := Except.ok.inj (found.symm.trans found')
  have sameLater : after = after' := congrArg Prod.snd (ran.symm.trans ran')
  rw [sameLater]

theorem succeeds_check_iff {later : FileTree} {diagram : RenderedDiagram} :
    Succeeds (check machine.system directory block) tree diagram later ↔
      diagram = ⟨block.id, imagePath directory block⟩ ∧ later = tree ∧
        (tree.entryAt? machine.working (imagePath directory block)).isSome = true := by
  unfold check
  rw [succeeds_bind_iff]
  simp only [succeeds_liftM_iff, Machine.exists?_run]
  constructor
  · rintro ⟨_, _, ⟨⟩, checked⟩
    split at checked
    next isThere =>
      obtain ⟨made, same⟩ := succeeds_pure_iff.mp checked
      exact ⟨made, same, isThere⟩
    next => cases checked
  · rintro ⟨made, same, isThere⟩
    refine ⟨_, tree, rfl, ?_⟩
    rw [if_pos isThere]
    exact succeeds_pure_iff.mpr ⟨made, same⟩

theorem succeeds_render_iff {later : FileTree} {diagram : RenderedDiagram} :
    Succeeds (render machine.system renderer directory block) tree diagram later ↔
      diagram = ⟨block.id, imagePath directory block⟩ ∧
        ∃ invocation, Runs machine renderer directory block tree invocation ∧
          invocation.after = later ∧
          (later.entryAt? machine.working (imagePath directory block)).isSome = true := by
  rw [render_eq, succeeds_bind_iff]
  constructor
  · rintro ⟨⟨⟩, before, prepared, rest⟩
    obtain ⟨⟨⟩, after, ran, checked⟩ := succeeds_bind_iff.mp rest
    obtain ⟨ending, launched, success⟩ := succeeds_runTool_iff.mp ran
    obtain ⟨program, found, executed⟩ := Machine.launch_ok_iff.mp launched
    obtain ⟨made, rfl, isThere⟩ := succeeds_check_iff.mp checked
    exact ⟨made, ⟨before, later⟩, ⟨prepared, program, ending, found, executed, success⟩, rfl,
      isThere⟩
  · rintro ⟨made, ⟨before, after⟩, ⟨prepared, program, ending, found, executed, success⟩, rfl,
      isThere⟩
    have launched := Machine.launch_ok_iff.mpr ⟨program, found, executed⟩
    refine ⟨(), before, prepared, succeeds_bind_iff.mpr ⟨(), after, ?_, ?_⟩⟩
    · exact succeeds_runTool_iff.mpr ⟨ending, launched, success⟩
    · exact succeeds_check_iff.mpr ⟨made, rfl, isThere⟩

theorem render_ok_iff {outcome : Except Failure RenderedDiagram} {later : FileTree}
    {diagram : RenderedDiagram}
    (answered : (render machine.system renderer directory block).run.run tree = (outcome, later)) :
    outcome = .ok diagram ↔ diagram = ⟨block.id, imagePath directory block⟩ ∧
      ∃ invocation, Runs machine renderer directory block tree invocation ∧
        (invocation.Writes machine.working diagram.image ∨
          invocation.Leaves machine.working diagram.image) := by
  constructor
  · rintro rfl
    obtain ⟨rfl, invocation, runs, rfl, isThere⟩ := succeeds_render_iff.mp answered
    exact ⟨rfl, invocation, runs, Invocation.isSome_iff.mp isThere⟩
  · rintro ⟨rfl, invocation, runs, found⟩
    have succeeds := succeeds_render_iff.mpr
      ⟨rfl, invocation, runs, rfl, Invocation.isSome_iff.mpr found⟩
    exact congrArg Prod.fst (answered.symm.trans succeeds)

structure Trial where
  block : DiagramBlock
  start : FileTree
  outcome : Except Failure RenderedDiagram

section

variable {Heard : Type}

/-- Blocks are rendered one after the other, and each outcome is reported before the next block is
looked at. -/
inductive Course (machine : Machine) (renderer : Renderer) (directory : Path)
    (report : DiagramBlock → Except Failure RenderedDiagram → StateT Heard (StateM FileTree) Unit) :
    Heard × FileTree → List Trial → Heard × FileTree → Prop
  | nil {world : Heard × FileTree} : Course machine renderer directory report world [] world
  | cons {block : DiagramBlock} {outcome : Except Failure RenderedDiagram}
      {before rendered reported after : Heard × FileTree} {trials : List Trial}
      (renders : Answers (render machine.system renderer directory block).run outcome before
        rendered)
      (reports : Leads (report block outcome) rendered () reported)
      (rest : Course machine renderer directory report reported trials after) :
      Course machine renderer directory report before (⟨block, before.2, outcome⟩ :: trials) after

variable
  {report : DiagramBlock → Except Failure RenderedDiagram → StateT Heard (StateM FileTree) Unit}

theorem Course.tried {before after : Heard × FileTree} {trials : List Trial} {trial : Trial}
    (course : Course machine renderer directory report before trials after)
    (member : trial ∈ trials) :
    ∃ later, (render machine.system renderer directory trial.block).run.run trial.start =
      (trial.outcome, later) := by
  induction course with
  | nil => cases member
  | cons renders _ _ ih =>
      cases member with
      | head => exact ⟨_, renders.1⟩
      | tail _ member => exact ih member

theorem renderAll_course (machine : Machine) (renderer : Renderer) (directory : Path)
    (report : DiagramBlock → Except Failure RenderedDiagram → StateT Heard (StateM FileTree) Unit)
    (blocks : List DiagramBlock) (world : Heard × FileTree) :
    ∃ trials after, Course machine renderer directory report world trials after ∧
      trials.map Trial.block = blocks ∧
      Leads (renderAll machine.system.lift renderer directory report blocks) world
        (Publication.successes (trials.map Trial.outcome)) after := by
  induction blocks generalizing world with
  | nil => exact ⟨[], world, .nil, rfl, rfl⟩
  | cons block blocks ih =>
      have renders := Leads.attempt
        (Relates.render machine.system.lift_systems renderer directory block) world
      generalize answered : (render machine.system renderer directory block).run.run world.2 = answer
        at renders
      obtain ⟨outcome, files⟩ := answer
      have answers : Answers (render machine.system renderer directory block).run outcome world
          (world.1, files) := ⟨answered, rfl⟩
      obtain ⟨reported, reports⟩ : ∃ reported, Leads (report block outcome) (world.1, files) ()
          reported := ⟨(_, _), rfl⟩
      obtain ⟨trials, after, course, tried, leads⟩ := ih reported
      refine ⟨⟨block, world.2, outcome⟩ :: trials, after, .cons answers reports course,
        congrArg (block :: ·) tried, ?_⟩
      refine renders.bind (reports.bind (leads.bind ?_))
      cases outcome <;> rfl

/-- What is returned is what was reported as a success, in the order of the blocks. A diagram is one
exactly if the program was run for it and ended well, and then there is something at the path of its
image. All images are from their own runs exactly if no such run leaves what was at the path. -/
theorem renderAll_returnsReported (machine : Machine) (renderer : Renderer) (directory : Path)
    (report : DiagramBlock → Except Failure RenderedDiagram → StateT Heard (StateM FileTree) Unit)
    (blocks : List DiagramBlock) (world : Heard × FileTree) :
    ∃ trials after, Course machine renderer directory report world trials after ∧
      trials.map Trial.block = blocks ∧
      Leads (renderAll machine.system.lift renderer directory report blocks) world
        (Publication.successes (trials.map Trial.outcome)) after ∧
      (∀ trial ∈ trials, ∀ diagram, trial.outcome = .ok diagram ↔
        diagram = ⟨trial.block.id, imagePath directory trial.block⟩ ∧
          ∃ invocation, Runs machine renderer directory trial.block trial.start invocation ∧
            (invocation.Writes machine.working diagram.image ∨
              invocation.Leaves machine.working diagram.image)) ∧
      ((∀ trial ∈ trials, ∀ diagram, trial.outcome = .ok diagram →
          ∃ invocation, Runs machine renderer directory trial.block trial.start invocation ∧
            invocation.Writes machine.working diagram.image) ↔
        ∀ trial ∈ trials, ∀ invocation,
          Runs machine renderer directory trial.block trial.start invocation →
            ¬invocation.Leaves machine.working (imagePath directory trial.block)) := by
  obtain ⟨trials, after, course, tried, leads⟩ :=
    renderAll_course machine renderer directory report blocks world
  have judged (trial : Trial) (member : trial ∈ trials) (diagram : RenderedDiagram) :
      trial.outcome = .ok diagram ↔
        diagram = ⟨trial.block.id, imagePath directory trial.block⟩ ∧
          ∃ invocation, Runs machine renderer directory trial.block trial.start invocation ∧
            (invocation.Writes machine.working diagram.image ∨
              invocation.Leaves machine.working diagram.image) := by
    obtain ⟨later, answered⟩ := course.tried member
    exact render_ok_iff answered
  refine ⟨trials, after, course, tried, leads, judged, ?_, ?_⟩
  · intro own trial member invocation runs leaves
    have done := (judged trial member _).mpr ⟨rfl, invocation, runs, .inr leaves⟩
    obtain ⟨other, again, writes⟩ := own trial member _ done
    rw [runs.unique again] at leaves
    exact writes.not_leaves leaves
  · intro clean trial member diagram done
    obtain ⟨rfl, invocation, runs, writes | leaves⟩ := (judged trial member diagram).mp done
    · exact ⟨invocation, runs, writes⟩
    · exact absurd leaves (clean trial member invocation runs)

end

def idle : Machine where
  environment := []
  working := []
  execute _ _ := return .ok ⟨.exited 0, []⟩

def staleFiles : FileTree :=
  let files := FileTree.place {} (Path.segments "bin/mmdc") (.file [] true)
  FileTree.place files (Path.segments "out/diagram-0.png") (.file [111, 108, 100] false)

/-- The image of another document is returned for a diagram that the program has not drawn. -/
theorem renderAll_staleImage :
    let renderer : Renderer := ⟨"bin/mmdc", [], {}⟩
    let block : DiagramBlock := ⟨DiagramBlock.name 0, "graph TD"⟩
    let image : Path := "out/diagram-0.png"
    let answer :=
      (renderAll idle.system renderer "out" (fun _ _ => pure ()) [block]).run staleFiles
    answer.1.map RenderedDiagram.image = [image] ∧
      staleFiles.read idle.working image = .ok [111, 108, 100] ∧
      answer.2.read idle.working image = .ok [111, 108, 100] ∧
      ¬∃ invocation, Runs idle renderer "out" block staleFiles invocation ∧
        invocation.Writes idle.working image := by
  intro renderer block image answer
  refine ⟨by decide +kernel, by decide +kernel, by decide +kernel, ?_⟩
  rintro ⟨⟨before, after⟩, ⟨-, program, ending, -, ran, -⟩, content, written, different⟩
  have unchanged : before = after := congrArg Prod.snd ran
  subst unchanged
  exact different written

end Renderer
end Compositor

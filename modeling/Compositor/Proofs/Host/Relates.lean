import Compositor.Publish.Assets
import Compositor.Publish.Compiler
import Compositor.Publish.Renderer

/-! Relations of programs on two systems. A relation that is kept when programs are put together
holds of every step of a publication if it holds of what the step asks of the systems. -/

namespace Compositor

structure Relates (m n : Type → Type) [Monad m] [Monad n] where
  holds {α : Type} : m α → n α → Prop
  pure {α : Type} (value : α) : holds (Pure.pure value) (Pure.pure value)
  bind {α β : Type} {program : m α} {other : n α} {next : α → m β} {otherNext : α → n β}
    (first : holds program other) (rest : ∀ value, holds (next value) (otherNext value)) :
    holds (program >>= next) (other >>= otherNext)

namespace Relates

variable {m n : Type → Type} [Monad m] [Monad n] (relates : Relates m n) {α β : Type}
  {system : System m} {other : System n}

section Directories

variable (kinds : ∀ path, relates.holds (system.kind? path) (other.kind? path))
include kinds

theorem isFile (path : Path) : relates.holds (system.isFile path) (other.isFile path) := by
  refine relates.bind (kinds path) ?_
  intro kind
  rcases kind with _ | _ | _ <;> exact relates.pure _

theorem isDirectory (path : Path) :
    relates.holds (system.isDirectory path) (other.isDirectory path) :=
  relates.bind (kinds path) fun _ => relates.pure _

theorem exists? (path : Path) : relates.holds (system.exists? path) (other.exists? path) :=
  relates.bind (kinds path) fun _ => relates.pure _

theorem findIn? (name : Text) (directories : List Path) :
    relates.holds (system.findIn? name directories) (other.findIn? name directories) := by
  induction directories with
  | nil => exact relates.pure _
  | cons directory directories ih =>
      refine relates.bind (kinds (Path.join directory name)) ?_
      intro kind
      split
      · exact relates.pure _
      · exact ih

variable (made : ∀ path, relates.holds (system.createDirectory path) (other.createDirectory path))
include made

theorem ensureDirectory (path : Path) :
    relates.holds (system.ensureDirectory path) (other.ensureDirectory path) := by
  refine relates.bind (made path) ?_
  intro outcome
  cases outcome with
  | ok _ => exact relates.pure _
  | error error =>
      refine relates.bind (relates.isDirectory kinds path) ?_
      intro there
      cases there <;> exact relates.pure _

theorem createChain (chain : List Path) :
    relates.holds (system.createChain chain) (other.createChain chain) := by
  induction chain with
  | nil => exact relates.pure _
  | cons path above ih =>
      unfold System.createChain
      split
      · exact relates.pure _
      · refine relates.bind (relates.ensureDirectory kinds made path) ?_
        intro outcome
        rcases outcome with error | _
        · cases error with
          | notFound =>
              refine relates.bind ih ?_
              intro outcomeAbove
              cases outcomeAbove with
              | ok _ => exact relates.ensureDirectory kinds made path
              | error error => exact relates.pure _
          | _ => exact relates.pure _
        · exact relates.pure _

theorem createDirectories (path : Path) :
    relates.holds (system.createDirectories path) (other.createDirectories path) :=
  relates.createChain kinds made (Path.selfAndAbove path)

end Directories

/-! Programs that can fail. -/

def attempts (program : Attempt m α) (other : Attempt n α) : Prop :=
  relates.holds program.run other.run

theorem attempt_pure (value : α) : relates.attempts (Pure.pure value) (Pure.pure value) :=
  relates.pure (Except.ok value)

theorem attempt_throw (failure : Failure) :
    relates.attempts (throw failure : Attempt m α) (throw failure) :=
  relates.pure (Except.error failure)

theorem attempt_bind {program : Attempt m α} {otherProgram : Attempt n α} {next : α → Attempt m β}
    {otherNext : α → Attempt n β} (first : relates.attempts program otherProgram)
    (rest : ∀ value, relates.attempts (next value) (otherNext value)) :
    relates.attempts (program >>= next) (otherProgram >>= otherNext) := by
  refine relates.bind first ?_
  intro outcome
  cases outcome with
  | ok value => exact rest value
  | error failure => exact relates.pure (Except.error failure)

theorem attempt_liftM [LawfulMonad m] [LawfulMonad n] {program : m α} {otherProgram : n α}
    (same : relates.holds program otherProgram) :
    relates.attempts (liftM program : Attempt m α) (liftM otherProgram : Attempt n α) := by
  have mapped := relates.bind same fun value => relates.pure (Except.ok (ε := Failure) value)
  rwa [bind_pure_comp, bind_pure_comp] at mapped

theorem onPath (path : Path) {program : m (Except FileError α)}
    {otherProgram : n (Except FileError α)} (same : relates.holds program otherProgram) :
    relates.attempts (onPath path program) (onPath path otherProgram) := by
  refine relates.bind same ?_
  intro outcome
  cases outcome <;> exact relates.pure _

/-! Systems that answer alike. -/

structure Systems (system : System m) (other : System n) : Prop where
  environment? (name : Text) :
    relates.holds (system.environment? name) (other.environment? name)
  kind? (path : Path) : relates.holds (system.kind? path) (other.kind? path)
  read (path : Path) : relates.holds (system.read path) (other.read path)
  write (path : Path) (content : Bytes) :
    relates.holds (system.write path content) (other.write path content)
  createDirectory (path : Path) :
    relates.holds (system.createDirectory path) (other.createDirectory path)
  copy (source destination : Path) :
    relates.holds (system.copy source destination) (other.copy source destination)
  launch (launch : Launch) : relates.holds (system.launch launch) (other.launch launch)

section Systems

variable {relates} (systems : relates.Systems system other)
include systems

theorem readText (path : Path) : relates.holds (system.readText path) (other.readText path) := by
  refine relates.bind (systems.read path) ?_
  intro content
  cases content with
  | error error => exact relates.pure _
  | ok bytes =>
      dsimp only
      cases Text.ofBytes? bytes <;> exact relates.pure _

theorem findProgram? (name : Text) :
    relates.holds (system.findProgram? name) (other.findProgram? name) :=
  relates.bind (systems.environment? "PATH") fun _ => relates.findIn? systems.kind? name _

theorem runTool (failure : Text → Failure) (launched name : Text) (launch : Launch) :
    relates.attempts (runTool system failure launched name launch)
      (runTool other failure launched name launch) := by
  refine relates.bind (systems.launch launch) ?_
  intro outcome
  cases outcome with
  | error error => exact relates.pure _
  | ok ending =>
      dsimp only
      split <;> exact relates.pure _

theorem compile (compiler : Compiler) (input output : Path) :
    relates.attempts (compiler.compile system input output)
      (compiler.compile other input output) :=
  runTool systems _ _ _ _

variable [LawfulMonad m] [LawfulMonad n]

theorem perform (copy : AssetCopy) :
    relates.attempts (copy.perform system) (copy.perform other) := by
  refine relates.attempt_bind (relates.attempt_liftM (relates.isFile systems.kind? copy.source)) ?_
  intro isFile
  cases isFile with
  | false => exact relates.attempt_throw _
  | true =>
      have copied := relates.onPath copy.destination (systems.copy copy.source copy.destination)
      rw [if_pos rfl, if_pos rfl]
      cases Path.parent? copy.destination with
      | none => exact copied
      | some directory =>
          have made := relates.createDirectories systems.kind? systems.createDirectory directory
          exact relates.attempt_bind (relates.onPath directory made) fun _ => copied

theorem render (renderer : Renderer) (directory : Path) (block : DiagramBlock) :
    relates.attempts (renderer.render system directory block)
      (renderer.render other directory block) := by
  have made := relates.createDirectories systems.kind? systems.createDirectory directory
  refine relates.attempt_bind (relates.onPath directory made) fun _ => ?_
  refine relates.attempt_bind (relates.onPath _ (systems.write _ _)) fun _ => ?_
  refine relates.attempt_bind (runTool systems _ _ _ _) fun _ => ?_
  refine relates.attempt_bind (relates.attempt_liftM (relates.exists? systems.kind? _)) ?_
  intro isThere
  cases isThere with
  | true => exact relates.attempt_pure _
  | false => exact relates.attempt_throw _

theorem discoverRenderer (options : RenderOptions) :
    relates.attempts (Renderer.discover system options) (Renderer.discover other options) := by
  refine relates.attempt_bind (relates.attempt_liftM (systems.environment? _)) ?_
  intro named
  generalize (options.command.map Text.words).getD [] = words
  rcases named with _ | _ | ⟨first, program⟩
  case some.cons => exact relates.attempt_pure _
  all_goals
    cases words with
    | cons program arguments => exact relates.attempt_pure _
    | nil =>
        refine relates.attempt_bind (relates.attempt_liftM (findProgram? systems _)) ?_
        intro mmdc
        cases mmdc with
        | some program => exact relates.attempt_pure _
        | none =>
            refine relates.attempt_bind (relates.attempt_liftM (findProgram? systems _)) ?_
            intro npx
            cases npx with
            | some program => exact relates.attempt_pure _
            | none => exact relates.attempt_throw _

theorem discoverCompiler (configured : Option Path) :
    relates.attempts (Compiler.discover system configured)
      (Compiler.discover other configured) := by
  refine relates.attempt_bind (relates.attempt_liftM (systems.environment? _)) ?_
  intro named
  rcases named with _ | _ | ⟨first, program⟩
  case some.cons => exact relates.attempt_pure _
  all_goals
    cases configured with
    | some program => exact relates.attempt_pure _
    | none =>
        refine relates.attempt_bind (relates.attempt_liftM (findProgram? systems _)) ?_
        intro typst
        cases typst with
        | some program => exact relates.attempt_pure _
        | none => exact relates.attempt_throw _

end Systems
end Relates
end Compositor

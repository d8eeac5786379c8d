import Compositor.Proofs.Host.Failing
import Compositor.Proofs.Host.Lift
import Compositor.Proofs.Publish.Protocol

/-! A publication on any system, followed action by action. What is kept of the events lies beside
the state of the system; only a report changes it, and everything else is done by the system. -/

namespace Compositor

variable {Heard State α β : Type}

/-- The program gives the outcome; what is heard stays as it is. -/
def Answers (program : StateM State α) (outcome : α) (before after : Heard × State) : Prop :=
  program.run before.2 = (outcome, after.2) ∧ after.1 = before.1

def Leads (program : StateT Heard (StateM State) α) (before : Heard × State) (outcome : α)
    (after : Heard × State) : Prop :=
  (program.run before.1).run before.2 = ((outcome, after.1), after.2)

theorem Leads.bind {program : StateT Heard (StateM State) α}
    {next : α → StateT Heard (StateM State) β} {before middle after : Heard × State} {value : α}
    {outcome : β} (leads : Leads program before value middle)
    (rest : Leads (next value) middle outcome after) :
    Leads (program >>= next) before outcome after := by
  unfold Leads at leads rest ⊢
  rw [StateT.run_bind, StateT.run_bind, leads]
  exact rest

theorem Leads.attempt {program : Attempt (StateT Heard (StateM State)) α}
    {below : Attempt (StateM State) α}
    (same : (lifting Heard (StateM State)).attempts program below) (before : Heard × State) :
    Leads program.run before (below.run.run before.2).1 (before.1, (below.run.run before.2).2) := by
  unfold Leads
  rw [same]
  rfl

namespace Publication

variable (system : System (StateM State)) (observe : Event → StateT Heard (StateM State) Unit)
  (publication : Publication)

/-- The action is one that the system, or the one who listens, takes in the world as it is. -/
def Happens : Action → Heard × State → Heard × State → Prop
  | .read source =>
      Answers (onPath publication.input (system.readText publication.input)).run source
  | .soughtRenderer options renderer => Answers (Renderer.discover system options).run renderer
  | .rendered renderer block image =>
      Answers (renderer.render system publication.diagramDirectory block).run image
  | .wrote markup outcome =>
      Answers (onPath publication.output
        (system.write publication.output markup.toBytes)).run outcome
  | .copied copy outcome => Answers (copy.perform system).run outcome
  | .soughtCompiler compiler => Answers (Compiler.discover system publication.typst).run compiler
  | .compiled compiler pdf outcome =>
      Answers (compiler.compile system publication.output pdf).run outcome
  | .reported event => fun before after => Leads (observe event) before () after

inductive Performed : Heard × State → List Action → Heard × State → Prop
  | nil {world : Heard × State} : Performed world [] world
  | cons {before middle after : Heard × State} {action : Action} {trace : List Action}
      (happens : Happens system observe publication action before middle)
      (rest : Performed middle trace after) : Performed before (action :: trace) after

variable {system observe publication}

theorem Performed.append {before middle after : Heard × State} {first second : List Action}
    (start : Performed system observe publication before first middle)
    (rest : Performed system observe publication middle second after) :
    Performed system observe publication before (first ++ second) after := by
  induction start with
  | nil => exact rest
  | cons happens _ ih => exact .cons happens (ih rest)

variable (system observe publication)

/-- From everywhere the program goes through actions that fit its outcome. -/
def Traced (program : StateT Heard (StateM State) α) (fits : List Action → α → Prop) : Prop :=
  ∀ before, ∃ trace outcome after, Leads program before outcome after ∧
    Performed system observe publication before trace after ∧ fits trace outcome

variable {system observe publication}

namespace Traced

theorem pure {value : α} {fits : List Action → α → Prop} (fit : fits [] value) :
    Traced system observe publication (Pure.pure value) fits := by
  intro before
  exact ⟨[], value, before, rfl, .nil, fit⟩

theorem bind {program : StateT Heard (StateM State) α} {next : α → StateT Heard (StateM State) β}
    {first : List Action → α → Prop} {fits : List Action → β → Prop}
    (traced : Traced system observe publication program first)
    (rest : ∀ trace value, first trace value →
      Traced system observe publication (next value)
        fun more outcome => fits (trace ++ more) outcome) :
    Traced system observe publication (program >>= next) fits := by
  intro before
  obtain ⟨trace, value, middle, leads, performed, fit⟩ := traced before
  obtain ⟨more, outcome, after, leadsOn, performedOn, fitOn⟩ := rest trace value fit middle
  exact ⟨trace ++ more, outcome, after, leads.bind leadsOn, performed.append performedOn, fitOn⟩

theorem attempt {program : Attempt (StateT Heard (StateM State)) α}
    {next : α → Attempt (StateT Heard (StateM State)) β}
    {first : List Action → Except Failure α → Prop} {fits : List Action → Except Failure β → Prop}
    (traced : Traced system observe publication program.run first)
    (fails : ∀ trace failure, first trace (.error failure) → fits trace (.error failure))
    (rest : ∀ trace value, first trace (.ok value) →
      Traced system observe publication (next value).run
        fun more outcome => fits (trace ++ more) outcome) :
    Traced system observe publication (program >>= next).run fits := by
  rw [ExceptT.run_bind]
  refine bind traced ?_
  intro trace outcome fit
  cases outcome with
  | ok value => exact rest trace value fit
  | error failure =>
      have failed := fails trace failure fit
      rw [← List.append_nil trace] at failed
      exact pure failed

theorem asked {program : Attempt (StateT Heard (StateM State)) α}
    {below : Attempt (StateM State) α}
    (same : (lifting Heard (StateM State)).attempts program below)
    (action : Except Failure α → Action)
    (happens : ∀ outcome, Happens system observe publication (action outcome) =
      Answers below.run outcome) :
    Traced system observe publication program.run fun trace outcome =>
      trace = [action outcome] ∧ ∃ before, (below.run.run before).1 = outcome := by
  intro before
  refine ⟨[action (below.run.run before.2).1], (below.run.run before.2).1,
    (before.1, (below.run.run before.2).2), .attempt same before, .cons ?_ .nil, rfl, before.2, rfl⟩
  rw [happens]
  exact ⟨rfl, rfl⟩

theorem reported (event : Event) :
    Traced system observe publication (observe event) fun trace _ => trace = [.reported event] := by
  intro before
  have leads : Leads (observe event) before () ((((observe event).run before.1).run before.2).1.2,
      (((observe event).run before.1).run before.2).2) := rfl
  exact ⟨[.reported event], (), _, leads, .cons leads .nil, rfl⟩

theorem lifted {program : StateT Heard (StateM State) α}
    {next : α → Attempt (StateT Heard (StateM State)) β}
    {first : List Action → α → Prop} {fits : List Action → Except Failure β → Prop}
    (traced : Traced system observe publication program first)
    (rest : ∀ trace value, first trace value →
      Traced system observe publication (next value).run
        fun more outcome => fits (trace ++ more) outcome) :
    Traced system observe publication (liftM program >>= next).run fits := by
  have run : (liftM program >>= next).run = program >>= fun value => (next value).run :=
    ExceptT.run_bind_lift program next
  rw [run]
  exact bind traced rest

theorem report {event : Event} {next : StateT Heard (StateM State) α}
    {fits : List Action → α → Prop}
    (rest : Traced system observe publication next
      fun more outcome => fits ([.reported event] ++ more) outcome) :
    Traced system observe publication (observe event >>= fun _ => next) fits := by
  refine bind (reported event) ?_
  rintro _ ⟨⟩ rfl
  exact rest

theorem report_attempt {event : Event} {next : Attempt (StateT Heard (StateM State)) α}
    {fits : List Action → Except Failure α → Prop}
    (rest : Traced system observe publication next.run
      fun more outcome => fits ([.reported event] ++ more) outcome) :
    Traced system observe publication (liftM (observe event) >>= fun _ => next).run fits := by
  refine lifted (reported event) ?_
  rintro _ ⟨⟩ rfl
  exact rest

end Traced

theorem makePdf_traced {pdf : Path} (asked : publication.pdf = some pdf) :
    Traced system observe publication (makePdf system.lift observe publication pdf).run
      (Compiles publication) := by
  unfold makePdf
  refine Traced.report_attempt ?_
  refine Traced.attempt
    (Traced.asked (Relates.discoverCompiler system.lift_systems _) .soughtCompiler fun _ => rfl)
    ?_ ?_
  · rintro _ failure ⟨rfl, before, error⟩
    rw [Compiler.discover_failsAs system _ before failure error]
    exact .notFound asked
  rintro _ compiler ⟨rfl, _⟩
  refine Traced.attempt (Traced.asked (Relates.compile system.lift_systems _ _ _)
    (.compiled compiler pdf) fun _ => rfl) ?_ ?_
  · rintro _ failure ⟨rfl, before, error⟩
    obtain ⟨reason, rfl⟩ := runTool_failsAs system _ _ _ _ before failure error
    exact .failed asked
  rintro _ ⟨⟩ ⟨rfl, _⟩
  -- The last report gets something behind it, like the others.
  rw [← bind_pure_unit (x := liftM (observe (.compiled pdf)))]
  exact Traced.report_attempt (Traced.pure (.done asked))

theorem reportDiagram_eq (block : DiagramBlock) (image : Except Failure RenderedDiagram) :
    reportDiagram observe block image = observe (diagramEvent block image) := by
  cases image <;> rfl

theorem successes_cons (outcome : Except Failure α) (outcomes : List (Except Failure α)) :
    successes (outcome :: outcomes) = outcome.toOption.toList ++ successes outcomes := by
  cases outcome <;> rfl

theorem renderAll_traced (renderer : Renderer) (blocks : List DiagramBlock) :
    Traced system observe publication
      (renderer.renderAll system.lift publication.diagramDirectory (reportDiagram observe) blocks)
      fun trace diagrams => ∃ images, images.length = blocks.length ∧
        trace = attempts renderer blocks images ∧ diagrams = successes images := by
  induction blocks with
  | nil => exact Traced.pure ⟨[], rfl, rfl, rfl⟩
  | cons block blocks ih =>
      refine Traced.bind (Traced.asked (Relates.render system.lift_systems _ _ _)
        (.rendered renderer block) fun _ => rfl) ?_
      rintro _ image ⟨rfl, _⟩
      rw [reportDiagram_eq]
      refine Traced.report ?_
      refine Traced.bind ih ?_
      rintro _ _ ⟨images, each, rfl, rfl⟩
      refine Traced.pure ⟨image :: images, congrArg Nat.succ each, ?_, ?_⟩
      · rw [attempts_cons, List.append_nil]
        rfl
      · cases image <;> rfl

theorem renderDiagrams_traced (blocks : List DiagramBlock) :
    Traced system observe publication (renderDiagrams system.lift observe publication blocks)
      (Draws publication blocks) := by
  unfold renderDiagrams
  cases asked : publication.diagrams with
  | none => exact Traced.pure (.leftOut (.inl asked))
  | some options =>
      obtain _ | ⟨block, blocks⟩ := blocks
      · exact Traced.pure (.leftOut (.inr rfl))
      refine Traced.report ?_
      refine Traced.bind (Traced.asked (Relates.discoverRenderer system.lift_systems _)
        (.soughtRenderer options) fun _ => rfl) ?_
      rintro _ found ⟨rfl, before, answer⟩
      cases found with
      | error failure =>
          obtain rfl := Renderer.discover_failsAs system _ before failure answer
          refine Traced.report ?_
          -- Nothing is rendered, so the last report is about no diagrams.
          rw [pure_bind]
          refine Traced.report ?_
          exact Traced.pure (.skipped asked (by simp))
      | ok renderer =>
          refine Traced.bind (renderAll_traced renderer (block :: blocks)) ?_
          rintro _ _ ⟨images, each, rfl, rfl⟩
          refine Traced.report ?_
          refine Traced.pure ?_
          have draws := @Draws.attempted publication _ options renderer images asked (by simp) each
          simpa using draws

theorem successes_add_failures (outcomes : List (Except Failure α)) :
    (successes outcomes).length + failures outcomes = outcomes.length := by
  induction outcomes with
  | nil => rfl
  | cons outcome outcomes ih =>
      rw [successes_cons, failures, List.countP_cons, ← failures]
      cases outcome <;> simp [Except.toOption, Except.isOk, Except.toBool] <;> omega

theorem performAll_traced (copies : List AssetCopy) :
    Traced system observe publication (AssetCopy.performAll system.lift copies)
      fun trace count => ∃ outcomes, outcomes.length = copies.length ∧
        trace = List.zipWith .copied copies outcomes ∧ count = (successes outcomes).length := by
  induction copies with
  | nil => exact Traced.pure ⟨[], rfl, rfl, rfl⟩
  | cons copy copies ih =>
      refine Traced.bind
        (Traced.asked (Relates.perform system.lift_systems _) (.copied copy) fun _ => rfl) ?_
      rintro _ outcome ⟨rfl, _⟩
      refine Traced.bind ih ?_
      rintro _ _ ⟨outcomes, each, rfl, rfl⟩
      refine Traced.pure ⟨outcome :: outcomes, congrArg Nat.succ each, ?_, ?_⟩
      · rw [List.zipWith_cons_cons, List.append_nil]
        rfl
      · cases outcome <;> rfl

variable (system observe publication) in
theorem publish_traced :
    Traced system observe publication (publish system.lift observe publication).run
      (Protocol publication) := by
  unfold publish
  refine Traced.attempt
    (Traced.asked (Relates.onPath _ _ (Relates.readText system.lift_systems _)) .read fun _ => rfl)
    ?_ ?_
  · rintro _ failure ⟨rfl, before, error⟩
    obtain ⟨reason, rfl⟩ := onPath_failsAs _ _ before failure error
    exact .unreadable
  rintro _ source ⟨rfl, _⟩
  refine Traced.report_attempt ?_
  refine Traced.report_attempt ?_
  refine Traced.lifted (renderDiagrams_traced _) ?_
  intro drawing diagrams draws
  refine Traced.report_attempt ?_
  refine Traced.attempt (Traced.asked (Relates.onPath _ _ (system.lift_systems.write _ _))
    (.wrote (publication.conversion source diagrams).markup) fun _ => rfl) ?_ ?_
  · rintro _ failure ⟨rfl, before, error⟩
    obtain ⟨reason, rfl⟩ := onPath_failsAs _ _ before failure error
    have unwritten := @Protocol.unwritten publication source drawing diagrams reason draws
    simpa [opening, diagramBlocks, style] using unwritten
  rintro _ ⟨⟩ ⟨rfl, _⟩
  refine Traced.report_attempt ?_
  refine Traced.lifted (performAll_traced _) ?_
  rintro _ _ ⟨outcomes, each, rfl, rfl⟩
  change outcomes.length = (publication.conversion source diagrams).assets.length at each
  -- The report counts what is left of the queue, the protocol the copies that fail.
  have counted : failures outcomes =
      (publication.conversion source diagrams).assets.length - (successes outcomes).length := by
    rw [← each, ← successes_add_failures outcomes, Nat.add_sub_cancel_left]
  have written {compiling : List Action} {pdf : Except Failure Unit}
      (compiles : Compiles publication compiling pdf) := Protocol.written draws each compiles
  rw [counted] at written
  simp only [opening, diagramBlocks, style, conversion] at written
  cases asked : publication.pdf with
  | none =>
      refine Traced.pure ?_
      simpa [asked, conversion, style, Except.map] using written (.notAsked asked)
  | some pdf =>
      refine Traced.attempt (makePdf_traced asked) ?_ ?_
      · intro compiling failure compiles
        simpa [conversion, style, Except.map] using written compiles
      · intro compiling _ compiles
        refine Traced.pure ?_
        simpa [asked, conversion, style, Except.map] using written compiles

end Publication
end Compositor

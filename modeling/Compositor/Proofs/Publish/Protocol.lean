import Compositor.Publish.Publication

/-! What happens while a document is published, as a list of actions: what the system is asked and
answers, and what is reported. Which lists there are depends on the answers alone. -/

namespace Compositor

inductive Action where
  | read (source : Except Failure Text)
  | soughtRenderer (options : RenderOptions) (renderer : Except Failure Renderer)
  | rendered (renderer : Renderer) (block : DiagramBlock) (image : Except Failure RenderedDiagram)
  | wrote (markup : Text) (outcome : Except Failure Unit)
  | copied (copy : AssetCopy) (outcome : Except Failure Unit)
  | soughtCompiler (compiler : Except Failure Compiler)
  | compiled (compiler : Compiler) (pdf : Path) (outcome : Except Failure Unit)
  | reported (event : Event)

namespace Action

def event? : Action → Option Event
  | reported event => some event
  | _ => none

def isFailedCopy : Action → Bool
  | copied _ (.error _) => true
  | _ => false

def isDrawing : Action → Bool
  | soughtRenderer .. | rendered .. | reported (.rendering _) | reported (.diagramRendered _)
  | reported (.diagramFailed ..) | reported (.diagramsSkipped ..)
  | reported (.renderFinished ..) => true
  | _ => false

end Action

def events (trace : List Action) : List Event := trace.filterMap Action.event?

def Event.isRendered : Event → Bool
  | .diagramRendered _ => true
  | _ => false

namespace Publication

def diagramDirectory (publication : Publication) : Path :=
  Path.join (Path.directory publication.output) publication.assetDirectory

def diagramBlocks (source : Text) : List DiagramBlock := Node.diagramBlocks (Markdown.parse source)

def style (source : Text) : DocumentStyle :=
  Frontmatter.ofText (Node.frontMatter? (Markdown.parse source))

def conversion (publication : Publication) (source : Text) (diagrams : List RenderedDiagram) :
    Markup.Conversion :=
  Markup.convert
    { output := Path.directory publication.output
      source := Path.directory publication.input
      assets := publication.assetDirectory
      diagrams := diagrams
      style := style source } (Markdown.parse source)

def diagramEvent (block : DiagramBlock) : Except Failure RenderedDiagram → Event
  | .ok diagram => .diagramRendered diagram
  | .error failure => .diagramFailed block failure

def attempts (renderer : Renderer) (blocks : List DiagramBlock)
    (images : List (Except Failure RenderedDiagram)) : List Action :=
  (blocks.zip images).flatMap fun (block, image) =>
    [.rendered renderer block image, .reported (diagramEvent block image)]

def successes {α : Type} (outcomes : List (Except Failure α)) : List α :=
  outcomes.filterMap Except.toOption

def failures {α : Type} (outcomes : List (Except Failure α)) : Nat :=
  outcomes.countP (!Except.isOk ·)

/-- What happens about the diagrams of a document, and which of them are there afterwards. -/
inductive Draws (publication : Publication) (blocks : List DiagramBlock) :
    List Action → List RenderedDiagram → Prop
  | leftOut (without : publication.diagrams = none ∨ blocks = []) : Draws publication blocks [] []
  | skipped {options : RenderOptions} (asked : publication.diagrams = some options)
      (any : blocks ≠ []) :
      Draws publication blocks
        [.reported (.rendering blocks.length),
          .soughtRenderer options (.error Renderer.toolNotFound),
          .reported (.diagramsSkipped blocks.length Renderer.toolNotFound),
          .reported (.renderFinished 0 blocks.length)] []
  | attempted {options : RenderOptions} {renderer : Renderer}
      {images : List (Except Failure RenderedDiagram)}
      (asked : publication.diagrams = some options) (any : blocks ≠ [])
      (each : images.length = blocks.length) :
      Draws publication blocks
        ([.reported (.rendering blocks.length), .soughtRenderer options (.ok renderer)] ++
          attempts renderer blocks images ++
          [.reported (.renderFinished (successes images).length blocks.length)])
        (successes images)

inductive Compiles (publication : Publication) : List Action → Except Failure Unit → Prop
  | notAsked (without : publication.pdf = none) : Compiles publication [] (.ok ())
  | notFound {pdf : Path} (asked : publication.pdf = some pdf) :
      Compiles publication
        [.reported (.compiling pdf), .soughtCompiler (.error Compiler.toolNotFound)]
        (.error Compiler.toolNotFound)
  | failed {pdf : Path} {compiler : Compiler} {reason : Text}
      (asked : publication.pdf = some pdf) :
      Compiles publication
        [.reported (.compiling pdf), .soughtCompiler (.ok compiler),
          .compiled compiler pdf (.error (.compile reason))]
        (.error (.compile reason))
  | done {pdf : Path} {compiler : Compiler} (asked : publication.pdf = some pdf) :
      Compiles publication
        [.reported (.compiling pdf), .soughtCompiler (.ok compiler),
          .compiled compiler pdf (.ok ()), .reported (.compiled pdf)]
        (.ok ())

def opening (publication : Publication) (source : Text) : List Action :=
  [.read (.ok source), .reported (.parsing publication.input),
    .reported (.parsed (diagramBlocks source).length (style source).hasPageBands)]

/-- What happens while a document is published, and what is reported of it at the end. -/
inductive Protocol (publication : Publication) : List Action → Except Failure Report → Prop
  | unreadable {reason : Text} :
      Protocol publication [.read (.error (.io publication.input reason))]
        (.error (.io publication.input reason))
  | unwritten {source : Text} {drawing : List Action} {diagrams : List RenderedDiagram}
      {reason : Text} (draws : Draws publication (diagramBlocks source) drawing diagrams) :
      Protocol publication
        (publication.opening source ++ drawing ++
          [.reported .converting,
            .wrote (publication.conversion source diagrams).markup
              (.error (.io publication.output reason))])
        (.error (.io publication.output reason))
  | written {source : Text} {drawing : List Action} {diagrams : List RenderedDiagram}
      {outcomes : List (Except Failure Unit)} {compiling : List Action}
      {pdf : Except Failure Unit}
      (draws : Draws publication (diagramBlocks source) drawing diagrams)
      (each : outcomes.length = (publication.conversion source diagrams).assets.length)
      (compiles : Compiles publication compiling pdf) :
      Protocol publication
        (publication.opening source ++ drawing ++
          [.reported .converting, .wrote (publication.conversion source diagrams).markup (.ok ()),
            .reported (.written publication.output)] ++
          List.zipWith .copied (publication.conversion source diagrams).assets outcomes ++
          compiling)
        (pdf.map fun _ =>
          { typst := publication.output
            pdf := publication.pdf
            diagramsRendered := diagrams.length
            diagramsTotal := (diagramBlocks source).length
            assetFailures := failures outcomes })

def lastEvent (publication : Publication) : Event :=
  match publication.pdf with
  | none => .written publication.output
  | some pdf => .compiled pdf

structure Accounts (publication : Publication) (trace : List Action)
    (result : Except Failure Report) : Prop where
  silent : events trace = [] ↔ ∃ failure, .read (.error failure) ∈ trace
  written (path : Path) : .written path ∈ events trace ↔
    path = publication.output ∧ ∃ markup, .wrote markup (.ok ()) ∈ trace
  succeeds : result.isOk = true ↔ (events trace).getLast? = some publication.lastEvent
  report (report : Report) (ok : result = .ok report) :
    report.typst = publication.output ∧ report.pdf = publication.pdf ∧
      report.diagramsRendered = (events trace).countP Event.isRendered ∧
      (∃ hasPageBands, .parsed report.diagramsTotal hasPageBands ∈ events trace) ∧
      report.assetFailures = trace.countP Action.isFailedCopy
  /-- Before the markup is written, the input or the output is at fault. -/
  early (failure : Failure) (error : result = .error failure)
      (unwritten : .written publication.output ∉ events trace) :
    ∃ reason, failure = .io publication.input reason ∨ failure = .io publication.output reason
  /-- After that only the PDF can fail. -/
  late (failure : Failure) (error : result = .error failure)
      (written : .written publication.output ∈ events trace) :
    publication.pdf.isSome = true ∧
      (failure = Compiler.toolNotFound ∨ ∃ reason, failure = .compile reason)

end Publication

@[simp] theorem events_append (first second : List Action) :
    events (first ++ second) = events first ++ events second := List.filterMap_append

@[simp] theorem events_nil : events [] = [] := rfl

@[simp] theorem events_cons (action : Action) (trace : List Action) :
    events (action :: trace) = action.event?.toList ++ events trace := by
  cases action <;> rfl

theorem mem_events {event : Event} {trace : List Action} :
    event ∈ events trace ↔ .reported event ∈ trace := by
  rw [events, List.mem_filterMap]
  constructor
  · rintro ⟨action, member, eventOf⟩
    cases action <;> simp only [Action.event?, reduceCtorEq, Option.some.injEq] at eventOf
    exact eventOf ▸ member
  · intro member
    exact ⟨_, member, rfl⟩

namespace Publication

variable {publication : Publication}

theorem attempts_isDrawing (renderer : Renderer) (blocks : List DiagramBlock)
    (images : List (Except Failure RenderedDiagram)) :
    ∀ action ∈ attempts renderer blocks images, Action.isDrawing action = true := by
  intro action member
  obtain ⟨⟨block, image⟩, _, member⟩ := List.mem_flatMap.mp member
  simp only [List.mem_cons, List.not_mem_nil, or_false] at member
  rcases member with rfl | rfl
  · rfl
  · cases image <;> rfl

theorem Draws.isDrawing {blocks : List DiagramBlock} {drawing : List Action}
    {diagrams : List RenderedDiagram} (draws : Draws publication blocks drawing diagrams) :
    ∀ action ∈ drawing, Action.isDrawing action = true := by
  cases draws with
  | leftOut => simp
  | skipped => simp [Action.isDrawing]
  | attempted =>
      intro action member
      simp only [List.mem_append, List.mem_cons, List.not_mem_nil, or_false] at member
      rcases member with ((rfl | rfl) | member) | rfl
      · rfl
      · rfl
      · exact attempts_isDrawing _ _ _ action member
      · rfl

theorem attempts_cons (renderer : Renderer) (block : DiagramBlock) (blocks : List DiagramBlock)
    (image : Except Failure RenderedDiagram) (images : List (Except Failure RenderedDiagram)) :
    attempts renderer (block :: blocks) (image :: images) =
      .rendered renderer block image :: .reported (diagramEvent block image) ::
        attempts renderer blocks images := rfl

theorem attempts_countP_isRendered (renderer : Renderer) (blocks : List DiagramBlock)
    (images : List (Except Failure RenderedDiagram)) (each : images.length = blocks.length) :
    (events (attempts renderer blocks images)).countP Event.isRendered =
      (successes images).length := by
  induction images generalizing blocks with
  | nil => simp [attempts, events, successes]
  | cons image images ih =>
      obtain _ | ⟨block, blocks⟩ := blocks
      · simp at each
      · have others := ih blocks (by simpa using each)
        rw [attempts_cons]
        cases image with
        | ok diagram =>
            change (Event.diagramRendered diagram :: events _).countP _ = _
            rw [List.countP_cons_of_pos rfl, others]
            rfl
        | error failure =>
            change (Event.diagramFailed block failure :: events _).countP _ = _
            rw [List.countP_cons_of_neg Bool.false_ne_true, others]
            rfl

theorem Draws.countP_isRendered {blocks : List DiagramBlock} {drawing : List Action}
    {diagrams : List RenderedDiagram} (draws : Draws publication blocks drawing diagrams) :
    (events drawing).countP Event.isRendered = diagrams.length := by
  cases draws with
  | leftOut => rfl
  | skipped => rfl
  | @attempted _ renderer images _ _ each =>
      have middle := attempts_countP_isRendered renderer blocks images each
      rw [events_append, events_append, List.countP_append, List.countP_append, middle]
      simp [events, Action.event?, Event.isRendered]

theorem copied_countP_isFailedCopy (copies : List AssetCopy) (outcomes : List (Except Failure Unit))
    (each : outcomes.length = copies.length) :
    (List.zipWith Action.copied copies outcomes).countP Action.isFailedCopy =
      failures outcomes := by
  induction outcomes generalizing copies with
  | nil => simp [failures]
  | cons outcome outcomes ih =>
      obtain _ | ⟨copy, copies⟩ := copies
      · simp at each
      · have others := ih copies (by simpa using each)
        rw [List.zipWith_cons_cons, List.countP_cons, others]
        cases outcome <;> simp [failures, Action.isFailedCopy, Except.isOk, Except.toBool]

@[simp] theorem events_copied (copies : List AssetCopy) (outcomes : List (Except Failure Unit)) :
    events (List.zipWith Action.copied copies outcomes) = [] := by
  rw [events, List.filterMap_eq_nil_iff]
  intro action member
  obtain ⟨place, _, rfl⟩ := List.mem_iff_getElem.mp member
  rw [List.getElem_zipWith]
  rfl

theorem read_notMem_copied (source : Except Failure Text) (copies : List AssetCopy)
    (outcomes : List (Except Failure Unit)) :
    Action.read source ∉ List.zipWith Action.copied copies outcomes := by
  intro member
  obtain ⟨place, _, same⟩ := List.mem_iff_getElem.mp member
  rw [List.getElem_zipWith] at same
  cases same

theorem Draws.notMem {blocks : List DiagramBlock} {drawing : List Action}
    {diagrams : List RenderedDiagram} (draws : Draws publication blocks drawing diagrams)
    {action : Action} (other : action.isDrawing = false) : action ∉ drawing := by
  intro member
  rw [draws.isDrawing action member] at other
  cases other

theorem Draws.countP_isFailedCopy {blocks : List DiagramBlock} {drawing : List Action}
    {diagrams : List RenderedDiagram} (draws : Draws publication blocks drawing diagrams) :
    drawing.countP Action.isFailedCopy = 0 := by
  rw [List.countP_eq_zero]
  intro action member failed
  have drawn := draws.isDrawing action member
  cases action <;> simp_all [Action.isFailedCopy, Action.isDrawing]

section Compiles

variable {compiling : List Action} {pdf : Except Failure Unit}

theorem Compiles.countP_isFailedCopy (compiles : Compiles publication compiling pdf) :
    compiling.countP Action.isFailedCopy = 0 := by
  cases compiles <;> rfl

theorem Compiles.countP_isRendered (compiles : Compiles publication compiling pdf) :
    (events compiling).countP Event.isRendered = 0 := by
  cases compiles <;> rfl

theorem Compiles.read_notMem (compiles : Compiles publication compiling pdf)
    (source : Except Failure Text) : .read source ∉ compiling := by
  cases compiles <;> simp

theorem Compiles.written_notMem (compiles : Compiles publication compiling pdf) (path : Path) :
    .written path ∉ events compiling := by
  cases compiles <;> simp [Action.event?]

theorem Compiles.error (compiles : Compiles publication compiling pdf) {failure : Failure}
    (error : pdf = .error failure) :
    publication.pdf.isSome = true ∧
      (failure = Compiler.toolNotFound ∨ ∃ reason, failure = .compile reason) := by
  cases compiles with
  | notAsked => cases error
  | notFound asked => cases error; exact ⟨by rw [asked]; rfl, .inl rfl⟩
  | failed asked => cases error; exact ⟨by rw [asked]; rfl, .inr ⟨_, rfl⟩⟩
  | done => cases error

theorem Compiles.getLast? (compiles : Compiles publication compiling pdf) :
    pdf.isOk = true ↔
      (events compiling).getLast?.getD (.written publication.output) = publication.lastEvent := by
  cases compiles with
  | notAsked without => simp [lastEvent, without, events_nil, Except.isOk, Except.toBool]
  | notFound asked | failed asked | done asked =>
      simp [lastEvent, asked, events_cons, events_nil, Action.event?, Except.isOk, Except.toBool]

end Compiles

@[simp] theorem converting_ne_lastEvent : .converting ≠ publication.lastEvent := by
  unfold lastEvent
  split <;> simp

theorem Protocol.accounts {trace : List Action} {result : Except Failure Report}
    (protocol : Protocol publication trace result) : Accounts publication trace result := by
  cases protocol with
  | unreadable =>
      exact
        { silent := by simp [Action.event?]
          written := by simp [Action.event?]
          succeeds := by simp [Action.event?, Except.isOk, Except.toBool]
          report := nofun
          early := by simp
          late := by simp [Action.event?] }
  | @unwritten _ drawing _ _ draws =>
      have notRead (failure : Failure) : .read (.error failure) ∉ drawing := draws.notMem rfl
      have notWrote (markup : Text) : .wrote markup (.ok ()) ∉ drawing := draws.notMem rfl
      have notWritten (path : Path) : .written path ∉ events drawing :=
        mt mem_events.mp (draws.notMem rfl)
      exact
        { silent := by simp [opening, Action.event?, notRead]
          written := by simp [opening, Action.event?, notWrote, notWritten]
          succeeds := by simp [Action.event?, Except.isOk, Except.toBool]
          report := nofun
          early := by simp
          late := by simp [opening, Action.event?, notWritten] }
  | @written source drawing diagrams outcomes compiling pdf draws each compiles =>
      have notRead (failure : Failure) : .read (.error failure) ∉ drawing := draws.notMem rfl
      have notWritten (path : Path) : .written path ∉ events drawing :=
        mt mem_events.mp (draws.notMem rfl)
      exact
        { silent := by
            simp [opening, Action.event?, notRead, read_notMem_copied, compiles.read_notMem]
          written := by
            intro path
            rw [and_iff_left ⟨(publication.conversion source diagrams).markup, by simp⟩]
            simp [opening, Action.event?, notWritten, compiles.written_notMem]
          succeeds := by
            have last := compiles.getLast?
            cases pdf <;>
              simpa [Action.event?, Except.isOk, Except.toBool, Except.map, List.getLast?_cons]
                using last
          report := by
            rintro report ok
            cases pdf with
            | error failure => cases ok
            | ok _ =>
                cases ok
                refine ⟨rfl, rfl, ?_, ⟨(style source).hasPageBands, ?_⟩, ?_⟩
                · simp [opening, Action.event?, Event.isRendered, draws.countP_isRendered,
                    compiles.countP_isRendered]
                · simp [opening, Action.event?]
                · simp [opening, Action.isFailedCopy, draws.countP_isFailedCopy,
                    copied_countP_isFailedCopy _ _ each, compiles.countP_isFailedCopy]
          early := by simp [Action.event?]
          late := by
            rintro failure error _
            cases pdf with
            | ok _ => cases error
            | error reason => cases error; exact compiles.error rfl }

end Publication
end Compositor

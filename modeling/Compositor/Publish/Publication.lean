import Compositor.Markup.Article
import Compositor.Publish.Assets
import Compositor.Publish.Compiler
import Compositor.Publish.Renderer

/-! From a Markdown file to a finished document. -/

namespace Compositor

structure Publication where
  input : Path
  output : Path
  pdf : Option Path := none
  assetDirectory : Text := "diagrams"
  /-- How diagrams are rendered; without options they are left out. -/
  diagrams : Option RenderOptions := some {}
  typst : Option Path := none

/-- What is reported while a document is published. Each phase is reported before it starts. -/
inductive Event where
  | parsing (input : Path)
  | parsed (diagrams : Nat) (hasPageBands : Bool)
  | rendering (count : Nat)
  | diagramRendered (diagram : RenderedDiagram)
  | diagramFailed (block : DiagramBlock) (failure : Failure)
  | diagramsSkipped (count : Nat) (reason : Failure)
  | renderFinished (rendered total : Nat)
  | converting
  | written (path : Path)
  | compiling (pdf : Path)
  | compiled (pdf : Path)

structure Report where
  typst : Path
  pdf : Option Path
  diagramsRendered : Nat
  diagramsTotal : Nat
  assetFailures : Nat

namespace Publication

variable {m : Type → Type} [Monad m]

def reportDiagram (observe : Event → m Unit) (block : DiagramBlock) :
    Except Failure RenderedDiagram → m Unit
  | .ok diagram => observe (.diagramRendered diagram)
  | .error failure => observe (.diagramFailed block failure)

/-- Renders the diagrams of a document, if that is asked for and there are any. No failure here
ends the publication. -/
def renderDiagrams (system : System m) (observe : Event → m Unit) (publication : Publication)
    (blocks : List DiagramBlock) : m (List RenderedDiagram) := do
  match publication.diagrams, blocks with
  | none, _ | _, [] => return []
  | some options, blocks =>
      observe (.rendering blocks.length)
      let rendered ← match ← (Renderer.discover system options).run with
        | .ok renderer =>
            let directory :=
              Path.join (Path.directory publication.output) publication.assetDirectory
            renderer.renderAll system directory (reportDiagram observe) blocks
        | .error reason => do
            observe (.diagramsSkipped blocks.length reason)
            pure []
      observe (.renderFinished rendered.length blocks.length)
      return rendered

def makePdf (system : System m) (observe : Event → m Unit) (publication : Publication)
    (pdf : Path) : Attempt m Unit := do
  observe (.compiling pdf)
  let compiler ← Compiler.discover system publication.typst
  compiler.compile system publication.output pdf
  observe (.compiled pdf)

/-- Publishes a document. Input and output have to succeed, and so has the PDF if there is to be
one; by then the markup is written. -/
def publish (system : System m) (observe : Event → m Unit) (publication : Publication) :
    Attempt m Report := do
  let source ← onPath publication.input (system.readText publication.input)
  observe (.parsing publication.input)
  let nodes := Markdown.parse source
  let style := Frontmatter.ofText (Node.frontMatter? nodes)
  let blocks := Node.diagramBlocks nodes
  observe (.parsed blocks.length style.hasPageBands)
  let diagrams ← (renderDiagrams system observe publication blocks : m _)
  observe .converting
  let conversion := Markup.convert
    { output := Path.directory publication.output
      source := Path.directory publication.input
      assets := publication.assetDirectory
      diagrams := diagrams
      style := style } nodes
  onPath publication.output (system.write publication.output conversion.markup.toBytes)
  observe (.written publication.output)
  let copied ← (AssetCopy.performAll system conversion.assets : m _)
  match publication.pdf with
  | some pdf => makePdf system observe publication pdf
  | none => pure ()
  return {
    typst := publication.output
    pdf := publication.pdf
    diagramsRendered := diagrams.length
    diagramsTotal := blocks.length
    assetFailures := conversion.assets.length - copied }

def record (system : System m) (publication : Publication) :
    m (Except Failure Report × List Event) :=
  ((publish system.lift (fun event => modify (· ++ [event])) publication).run).run []

end Publication
end Compositor

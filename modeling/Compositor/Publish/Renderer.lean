import Compositor.Document.Outline
import Compositor.Host.Attempt

/-! Rendering diagrams with the Mermaid command line tool. -/

namespace Compositor

structure RenderOptions where
  /-- The tool with its first arguments; it is looked for if this is missing or blank. -/
  command : Option Text := none
  background : Text := "white"
  scale : UInt32 := 2
  puppeteerConfig : Option Path := none
  deriving DecidableEq

structure Renderer where
  program : Path
  arguments : List Text
  options : RenderOptions

namespace Renderer

variable {m : Type → Type} [Monad m]

def toolNotFound : Failure :=
  .toolNotFound ("Unable to locate the Mermaid CLI (mmdc). Install @mermaid-js/mermaid-cli or " ++
    "set MDTYPE_MMDC_BIN.")

def discover (system : System m) (options : RenderOptions) : Attempt m Renderer := do
  match ← (system.environment? "MDTYPE_MMDC_BIN" : m _), (options.command.map Text.words).getD [] with
  | some (first :: program), _ => return ⟨first :: program, [], options⟩
  | _, program :: arguments => return ⟨program, arguments, options⟩
  | _, [] =>
      match ← (system.findProgram? "mmdc" : m _) with
      | some program => return ⟨program, [], options⟩
      | none =>
          match ← (system.findProgram? "npx" : m _) with
          | some program => return ⟨program, ["-y", "mmdc"], options⟩
          | none => throw toolNotFound

/-- Keeps the browser of the tool out of a sandbox of its own. -/
def browserArguments : Text := "--no-sandbox --disable-setuid-sandbox"

def launch (renderer : Renderer) (source image : Path) : Launch where
  program := renderer.program
  arguments :=
    let options := renderer.options
    let config : List Text := match options.puppeteerConfig with
      | some config => [("-p" : Text), config]
      | none => []
    renderer.arguments ++ [("-i" : Text), source, ("-o" : Text), image, ("-b" : Text),
      options.background, ("-s" : Text), Text.ofNat options.scale.toNat] ++ config
  bindings := [("PUPPETEER_ARGS", browserArguments)]

/-- Renders a diagram into a directory. The source stays beside the image. -/
def render (system : System m) (renderer : Renderer) (directory : Path) (block : DiagramBlock) :
    Attempt m RenderedDiagram := do
  onPath directory (system.createDirectories directory)
  let source := Path.join directory (block.id ++ ".mmd")
  let image := Path.join directory (block.id ++ ".png")
  onPath source (system.write source block.source.toBytes)
  runTool system .render (renderer.program ++ " (" ++ block.id ++ ")") block.id
    (renderer.launch source image)
  if ← (system.exists? image : m _) then return ⟨block.id, image⟩
  else throw (.render (block.id ++ " produced no image at " ++ image))

/-- Renders diagrams one after the other and reports each outcome. One that fails does not stop
the others; the result has those that succeed. -/
def renderAll (system : System m) (renderer : Renderer) (directory : Path)
    (report : DiagramBlock → Except Failure RenderedDiagram → m Unit) :
    (blocks : List DiagramBlock) → m (List RenderedDiagram)
  | [] => return []
  | block :: blocks => do
      let outcome ← (render system renderer directory block).run
      report block outcome
      let others ← renderAll system renderer directory report blocks
      return match outcome with
        | .ok diagram => diagram :: others
        | .error _ => others

end Renderer
end Compositor

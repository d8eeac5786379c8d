import Compositor.Publish.Publication
import Compositor.Targets

/-! What the command line prints. -/

namespace Compositor.CommandLine

inductive Channel where
  | output
  | errors
  deriving DecidableEq

structure Message where
  channel : Channel
  text : Text

def Message.line (text : Text) : Message := ⟨.output, text ++ ['\n']⟩

def Message.error (text : Text) : Message := ⟨.errors, text ++ ['\n']⟩

def shortName (path : Path) : Text := (Path.fileName? path).getD path

def announce (input : Path) (targets : Targets) : List Message :=
  [.line ("Converting: " ++ input),
    match targets.pdf with
    | some pdf => .line ("Output to: " ++ pdf ++ " (via " ++ shortName targets.typst ++ ")\n")
    | none => .line ("Output to: " ++ targets.typst ++ "\n")]

def progressMessages : Event → List Message
  | .parsing _ => [.line "Parsing markdown..."]
  | .parsed diagrams hasPageBands =>
      .line ("Found " ++ Text.ofNat diagrams ++ " mermaid diagram(s)\n") ::
        if hasPageBands then [.line "Found header/footer configuration in frontmatter\n"] else []
  | .rendering _ => [.line "Rendering mermaid diagrams..."]
  | .diagramRendered diagram => [.line ("✓ Rendered " ++ shortName diagram.image)]
  | .diagramFailed block failure =>
      [.error ("✗ Failed to render " ++ block.id ++ ": " ++ failure.message)]
  | .diagramsSkipped count reason =>
      [.error ("✗ Skipped " ++ Text.ofNat count ++ " mermaid diagram(s): " ++ reason.message)]
  | .renderFinished _ _ => [.line []]
  | .converting => [.line "Converting to Typst..."]
  | .written path => [.line ("✓ Typst file created: " ++ path)]
  | .compiling _ => [.line "\nCompiling to PDF..."]
  | .compiled pdf => [.line ("✓ PDF generated: " ++ pdf)]

/-- What is printed when a conversion fails. Once the markup is written only the PDF can fail. -/
def failureMessages (written : Bool) (failure : Failure) : List Message :=
  if written then
    [.error ("✗ PDF compilation failed: " ++ failure.message),
      .error "  Make sure Typst is installed: https://github.com/typst/typst/releases"]
  else [.error ("Error: " ++ failure.message)]

def versionText : Text := "mdtype 0.3.0"

def helpText : Text :=
  Text.join ['\n'] (([
    "Convert Markdown with Mermaid diagrams to Typst",
    "",
    "Usage: mdtype [OPTIONS] <input> [output]",
    "",
    "Arguments:",
    "  <input>   Input Markdown file",
    "  [output]  Output Typst file, or a PDF to compile to",
    "",
    "Options:",
    "      --config <PATH>     Path to a mdtype.toml configuration file",
    "      --asset-dir <NAME>  Directory, next to the output, for diagrams and logos",
    "      --no-diagrams       Do not render mermaid diagrams",
    "  -q, --quiet             Only print errors",
    "  -h, --help              Print help",
    "  -V, --version           Print version"] : List String).map String.toList)

end Compositor.CommandLine

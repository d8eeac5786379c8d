import Compositor.CommandLine.Arguments
import Compositor.CommandLine.Message
import Compositor.Settings.Layers

/-! The program: from its arguments to its exit code. -/

namespace Compositor.CommandLine

variable {m : Type → Type} [Monad m]

def layers (options : Options) : List Settings.Layer :=
  .file "mdtype.toml" false ::
    ((options.config.map fun path => Settings.Layer.file path true).toList ++
      (options.assetDirectory.map fun name =>
        Settings.Layer.override "output.asset_dir" (.text name)).toList ++
      (if options.noDiagrams then [.override "diagrams.enabled" (.flag false)] else []))

def publication (options : Options) (settings : Settings) : Publication :=
  let targets := Targets.resolve options.input options.output
  { input := options.input
    output := targets.typst
    pdf := targets.pdf
    assetDirectory := settings.assetDirectory
    diagrams := if settings.diagrams.enabled then some settings.diagrams.renderOptions else none
    typst := settings.typst }

def printAll (print : Message → m Unit) : (messages : List Message) → m Unit
  | [] => return ()
  | message :: messages => do
      print message
      printAll print messages

/-- Notes when the markup is written, and prints an event if progress is shown. -/
def observe (print : Message → m Unit) (progress : Bool) (event : Event) : StateT Bool m Unit := do
  if let .written _ := event then set true
  if progress then (printAll print (progressMessages event) : m Unit)

def convert (system : System m) (print : Message → m Unit) (options : Options)
    (settings : Settings) : m Nat := do
  let progress := settings.progress && !options.quiet
  let publication := publication options settings
  if progress then printAll print (announce options.input ⟨publication.output, publication.pdf⟩)
  let (result, written) ←
    (Publication.publish system.lift (observe print progress) publication).run.run false
  match result with
  | .ok _ => return 0
  | .error failure =>
      printAll print (failureMessages written failure)
      return 1

def run (system : System m) (print : Message → m Unit) (arguments : List Text) : m Nat := do
  if arguments.isEmpty then
    print (.error helpText)
    return 2
  match read {} false arguments with
  | .error error =>
      print (.error ("error: " ++ error.message))
      return 2
  | .ok .version =>
      print (.line versionText)
      return 0
  | .ok .help =>
      print (.line helpText)
      return 0
  | .ok (.convert options) =>
      match ← (Settings.load system (layers options)).run with
      | .ok settings => convert system print options settings
      | .error failure =>
          print (.error ("Failed to load configuration: " ++ failure.message))
          return 1

end Compositor.CommandLine

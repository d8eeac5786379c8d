import Compositor.Host.Attempt

/-! Making a PDF with the `typst` program. -/

namespace Compositor

structure Compiler where
  program : Path

namespace Compiler

variable {m : Type → Type} [Monad m]

def toolNotFound : Failure :=
  .toolNotFound "Unable to locate the typst compiler. Install typst or set MDTYPE_TYPST_BIN."

/-- The variable of the environment goes before the configured program, and that before the one
that is found. -/
def discover (system : System m) (configured : Option Path) : Attempt m Compiler := do
  match ← (system.environment? "MDTYPE_TYPST_BIN" : m _), configured with
  | some (first :: program), _ => return ⟨first :: program⟩
  | _, some program => return ⟨program⟩
  | _, none =>
      match ← (system.findProgram? "typst" : m _) with
      | some program => return ⟨program⟩
      | none => throw toolNotFound

def compile (system : System m) (compiler : Compiler) (input output : Path) : Attempt m Unit :=
  runTool system .compile ("typst (" ++ compiler.program ++ ")") "typst"
    { program := compiler.program, arguments := ["compile", input, output] }

end Compiler
end Compositor

import Compositor.Path.Basic

/-! Which files a run writes. -/

namespace Compositor

structure Targets where
  typst : Path
  pdf : Option Path
  deriving DecidableEq

def isPdf (path : Path) : Bool :=
  match Path.extension? path with
  | some extension => extension.map Char.toLower == "pdf".toList
  | none => false

/-- Without an output the markup goes beside the input; beside a PDF it goes under the same name. -/
def Targets.resolve (input : Path) : (output : Option Path) → Targets
  | none => ⟨Path.withExtension input "typ", none⟩
  | some output =>
      if isPdf output then ⟨Path.withExtension output "typ", some output⟩ else ⟨output, none⟩

end Compositor

import Compositor.Path.Basic

/-! What can go wrong between a Markdown file and a finished document. -/

namespace Compositor

inductive Failure where
  | io (path : Path) (reason : Text)
  | parse (reason : Text)
  | render (reason : Text)
  | compile (reason : Text)
  | toolNotFound (reason : Text)
  deriving DecidableEq

def Failure.message : Failure → Text
  | .io path reason => "I/O error on '" ++ path ++ "': " ++ reason
  | .parse reason => "Parse error: " ++ reason
  | .render reason => "Diagram rendering error: " ++ reason
  | .compile reason => "Typst compilation failed: " ++ reason
  | .toolNotFound reason => "Tool not found: " ++ reason

end Compositor

import Compositor.Host.Machine
import Compositor.Shell.Execution

/-! A machine that runs scripts. -/

namespace Compositor

/-- A machine on which programs are scripts; a script can start no other program. -/
def Machine.withScripts (environment : List (Text × Text)) (working : Location) : Machine :=
  let bare : Machine := ⟨environment, working, fun _ _ => return .error .notFound⟩
  { bare with execute := Shell.execute bare.system }

end Compositor

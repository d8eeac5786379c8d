import Compositor.Failure
import Compositor.Host.System

/-! Steps that can fail. -/

namespace Compositor

abbrev Attempt (m : Type → Type) := ExceptT Failure m

variable {m : Type → Type} [Monad m] {α : Type}

def onPath (path : Path) (action : m (Except FileError α)) : Attempt m α :=
  ExceptT.mk do
    match ← action with
    | .ok value => return .ok value
    | .error error => return .error (.io path error.message)

/-- Runs a program. A program that cannot be started, or that ends without success, is a failure:
its kind and the name of the run come from the caller. -/
def runTool (system : System m) (failure : Text → Failure) (launched name : Text) (launch : Launch) :
    Attempt m Unit :=
  ExceptT.mk do
    match ← system.launch launch with
    | .error error => return .error (failure ("Failed to launch " ++ launched ++ ": " ++ error.message))
    | .ok ending =>
        if ending.status.isSuccess then return .ok ()
        else
          return .error (failure (name ++ " exited with status " ++ ending.status.message ++ ": " ++
            Text.trim (Text.ofBytesLossy ending.errors)))

end Compositor

import Compositor.Host.Attempt
import Compositor.Markup.Setting

/-! Copying the files that a document shows. -/

namespace Compositor

variable {m : Type → Type} [Monad m]

def AssetCopy.perform (system : System m) (copy : AssetCopy) : Attempt m Unit := do
  if ← (system.isFile copy.source : m _) then
    match Path.parent? copy.destination with
    | some directory => onPath directory (system.createDirectories directory)
    | none => pure ()
    onPath copy.destination (system.copy copy.source copy.destination)
  else throw (.io copy.source "asset file not found")

def AssetCopy.performAll (system : System m) : (copies : List AssetCopy) → m Nat
  | [] => return 0
  | copy :: copies => do
      let done ← (copy.perform system).run
      let others ← performAll system copies
      return match done with
        | .ok _ => others + 1
        | .error _ => others

end Compositor

import Compositor.Path.Basic

/-! The way from one path to another. -/

namespace Compositor.Path

/-- The components that lead from `base` to `target`. While `common` holds, equal components are
passed over; a component of the base that goes up cannot be undone. -/
def climb (common : Bool) : (target base : List Component) → Option (List Component)
  | target, [] => some target
  | [], _ :: base => (climb false [] base).map (.parent :: ·)
  | component :: target, under :: base =>
      if common && component == under then climb true target base
      else if under == .current then (climb false target base).map (component :: ·)
      else if under == .parent then none
      else some (.parent :: (base.map fun _ => .parent) ++ component :: target)

def difference? (target base : Path) : Option Path :=
  if isAbsolute target == isAbsolute base then
    (climb true (components target) (components base)).map ofComponents
  else if isAbsolute target then some target
  else none

def forwardSlashes (path : Path) : Path := path.map fun character =>
  if character = '\\' then '/' else character

/-- The path of `target` seen from `base`, with forward slashes alone; `target` itself where no
way leads from the base. -/
def relativeTo (target base : Path) : Path := forwardSlashes ((difference? target base).getD target)

end Compositor.Path

import Compositor.Proofs.Path.Steps

/-! The way from a directory to a path leads there. It goes up once for every name of the directory
that the path does not share, and a name that was entered and left again changes nothing. So the
directory has to be made of names: what `..` in it leaves cannot be entered again by its text. -/

namespace Compositor.Path

variable {base target path : Path}

def Component.isName : Component → Bool
  | .normal _ => true
  | _ => false

/-- Behind the root, if there is one, the path only goes down. -/
def GoesDown (path : Path) : Prop :=
  ∀ component ∈ components path, component = .root ∨ component.isName = true

instance (path : Path) : Decidable (GoesDown path) := by
  unfold GoesDown
  infer_instance

/-! The components of the way. -/

theorem climb_nil (common : Bool) (base : List Component) :
    climb common [] base = some (List.replicate base.length .parent) := by
  induction base generalizing common with
  | nil => rfl
  | cons under base ih =>
      rw [climb, ih]
      rfl

theorem climb_names {base : List Component} (areNames : ∀ under ∈ base, under.isName = true)
    (target : List Component) :
    ∃ shared up down, target = shared ++ down ∧ base = shared ++ up ∧
      climb true target base = some (List.replicate up.length .parent ++ down) := by
  induction base generalizing target with
  | nil => exact ⟨[], [], target, rfl, rfl, by rw [climb]; rfl⟩
  | cons under base ih =>
      cases target with
      | nil => exact ⟨[], under :: base, [], rfl, rfl, by rw [climb_nil, List.append_nil]⟩
      | cons component target =>
          by_cases same : component = under
          · obtain ⟨shared, up, down, rfl, rfl, climbed⟩ :=
              ih (fun later member => areNames later (.tail _ member)) target
            refine ⟨component :: shared, up, down, rfl, by rw [same]; rfl, ?_⟩
            rw [climb, same]
            simpa using climbed
          · have isName := areNames under (.head _)
            refine ⟨[], under :: base, component :: target, rfl, rfl, ?_⟩
            cases under with
            | normal name => simp [climb, same, List.replicate_succ, List.map_const']
            | _ => cases isName

theorem components_alike (alike : isAbsolute target = isAbsolute base) :
    ∃ origin ahead baseAhead, components target = origin ++ ahead ∧
      components base = origin ++ baseAhead ∧ .root ∉ ahead ∧ .root ∉ baseAhead := by
  have noRoot (path : Path) : .root ∉ steps path := by
    intro member
    cases (isStep_of_mem_steps member).relative
  have relativeNoRoot {path : Path} (relative : isAbsolute path = false) :
      .root ∉ components path := by
    rw [components_eq, start, relative, List.mem_append, not_or]
    refine ⟨?_, noRoot path⟩
    split <;> simp_all
  cases absolute : isAbsolute base with
  | true =>
      rw [absolute] at alike
      refine ⟨[.root], steps target, steps base, ?_, ?_, noRoot target, noRoot base⟩
      · rw [components_eq, start, if_pos alike]
      · rw [components_eq, start, if_pos absolute]
  | false =>
      rw [absolute] at alike
      exact ⟨[], components target, components base, rfl, rfl, relativeNoRoot alike,
        relativeNoRoot absolute⟩

/-! What a way does to the path it starts from. -/

/-- A component that can be joined: its text does to a path what the component itself does. -/
structure Passable (component : Component) : Prop where
  relative : isAbsolute component.text = false
  passed (resolved : List Component) :
    (steps component.text).foldl resolveStep resolved = resolveStep resolved component

theorem IsStep.passable {component : Component} (isStep : IsStep component) :
    Passable component where
  relative := isStep.relative
  passed resolved := by
    rw [isStep.alone]
    rfl

theorem parent_passable : Passable .parent := ⟨rfl, fun _ => rfl⟩

theorem current_passable : Passable .current := ⟨rfl, fun _ => rfl⟩

theorem passable_of_mem_components {component : Component} (member : component ∈ components path)
    (notRoot : component ≠ .root) : Passable component := by
  rw [components_eq, List.mem_append] at member
  obtain first | isStep := member
  · unfold start at first
    split at first
    · exact absurd (List.mem_singleton.mp first) notRoot
    · split at first
      · rw [List.mem_singleton.mp first]
        exact current_passable
      · cases first
  · exact (isStep_of_mem_steps isStep).passable

theorem foldl_steps_ofComponents {components : List Component}
    (arePassable : ∀ component ∈ components, Passable component) (resolved : List Component) :
    (steps (ofComponents components)).foldl resolveStep resolved =
      components.foldl resolveStep resolved := by
  have written :=
    steps_foldl_join (fun component member => (arePassable component member).relative) []
  rw [ofComponents, written]
  change (components.flatMap _).foldl resolveStep resolved = _
  rw [List.foldl_flatMap]
  exact List.foldl_ext _ _ _ fun resolved component member =>
    (arePassable component member).passed resolved

theorem resolve_join (relative : isAbsolute path = false) (base : Path) :
    resolve (join base path) =
      ((steps path).foldl resolveStep ((components base).foldl resolveStep [])).reverse := by
  by_cases empty : base = []
  · have atStart : (start path).foldl resolveStep [] = [] := by
      rw [start, relative]
      split
      · contradiction
      · split <;> rfl
    rw [empty, nil_join, resolve, components_eq, List.foldl_append, atStart]
    rfl
  · rw [resolve, components_join relative empty, List.foldl_append]

theorem foldl_names_parents {names : List Component}
    (areNames : ∀ component ∈ names, component.isName = true) (resolved : List Component) :
    (List.replicate names.length .parent).foldl resolveStep (names.foldl resolveStep resolved) =
      resolved := by
  induction names generalizing resolved with
  | nil => rfl
  | cons component names ih =>
      have isName := areNames component (.head _)
      have inner := ih (fun later member => areNames later (.tail _ member))
        (resolveStep resolved component)
      rw [List.length_cons, List.replicate_succ', List.foldl_append]
      simp only [List.foldl_cons, inner, List.foldl_nil]
      cases component with
      | normal name => rfl
      | _ => cases isName

theorem difference?_goesDown (alike : isAbsolute target = isAbsolute base)
    (goesDown : GoesDown base) :
    ∃ way, difference? target base = some (ofComponents way) ∧
      (∀ component ∈ way, Passable component) ∧
      way.foldl resolveStep ((components base).foldl resolveStep []) =
        (components target).foldl resolveStep [] := by
  obtain ⟨origin, ahead, baseAhead, targetIs, baseIs, noRoot, baseNoRoot⟩ := components_alike alike
  have areNames : ∀ under ∈ baseAhead, under.isName = true := by
    intro under member
    refine (goesDown under (by simp [baseIs, member])).resolve_left ?_
    rintro rfl
    exact baseNoRoot member
  obtain ⟨shared, up, down, rfl, rfl, climbed⟩ := climb_names areNames ahead
  refine ⟨List.replicate up.length .parent ++ down, ?_, ?_, ?_⟩
  · rw [difference?, if_pos (by simp [alike]), targetIs, baseIs, climb_append, climbed]
    rfl
  · intro component member
    obtain isUp | isDown := List.mem_append.mp member
    · rw [List.eq_of_mem_replicate isUp]
      exact parent_passable
    · have isAhead : component ∈ shared ++ down := List.mem_append_right shared isDown
      have inTarget : component ∈ components target := by
        rw [targetIs]
        exact List.mem_append_right origin isAhead
      refine passable_of_mem_components inTarget ?_
      rintro rfl
      exact noRoot isAhead
  · have upNames : ∀ under ∈ up, under.isName = true := fun under member =>
      areNames under (List.mem_append_right shared member)
    rw [targetIs, baseIs]
    simp only [List.foldl_append, foldl_names_parents upNames]

end Compositor.Path

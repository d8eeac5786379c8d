import Compositor.Proofs.Path.Characters
import Mathlib.Data.List.Basic

/-! The steps of a path: its components behind the root or the leading dot. To join a path to a
directory is to add its steps, so the way from a directory to what was joined to it consists of
these steps, whatever the directory is. -/

namespace Compositor.Path

variable {base path : Path}

theorem segments_append (before behind : Path) :
    segments (before ++ '/' :: behind) = segments before ++ segments behind :=
  Text.split_append '/' before behind

theorem segments_eq_self (oneName : '/' ∉ path) : segments path = [path] :=
  Text.split_eq_singleton oneName

def steps (path : Path) : List Component :=
  ((segments path).filter (! isIdle ·)).map Component.ofSegment

theorem steps_append (before behind : Path) :
    steps (before ++ '/' :: behind) = steps before ++ steps behind := by
  simp only [steps, segments_append, List.filter_append, List.map_append]

def start (path : Path) : List Component :=
  if isAbsolute path then [.root]
  else if (segments path).head? = some ['.'] then [.current]
  else []

theorem components_eq (path : Path) : components path = start path ++ steps path := by
  unfold components start steps
  cases whole : segments path with
  | nil => exact absurd whole (Text.split_ne_nil _ path)
  | cons first rest =>
      simp only
      by_cases absolute : isAbsolute path = true
      · rw [if_pos absolute, if_pos absolute]
        -- Only an empty segment stands before the first slash.
        have empty : first = [] := by
          obtain ⟨behind, rfl⟩ := List.head?_eq_some_iff.mp (eq_of_beq absolute)
          have split := segments_append [] behind
          rw [List.nil_append, whole] at split
          exact (List.cons.inj split).1
        rw [empty]
        rfl
      rw [if_neg absolute, if_neg absolute]
      by_cases empty : first = []
      · subst empty
        rfl
      by_cases dot : first = ['.']
      · subst dot
        rfl
      have busy : isIdle first = false := by simp [isIdle, empty, dot]
      simp [empty, dot, busy, Component.ofFirst]

theorem isAbsolute_append (notEmpty : base ≠ []) (behind : Path) :
    isAbsolute (base ++ behind) = isAbsolute base := by
  cases base with
  | nil => exact absurd rfl notEmpty
  | cons character base => rfl

theorem start_append (notEmpty : base ≠ []) (behind : Path) :
    start (base ++ '/' :: behind) = start base := by
  have first : (segments (base ++ '/' :: behind)).head? = (segments base).head? := by
    rw [segments_append, List.head?_append]
    cases whole : segments base with
    | nil => exact absurd whole (Text.split_ne_nil _ base)
    | cons first rest => rfl
  rw [start, first, isAbsolute_append notEmpty]
  rfl

/-! Joining. -/

theorem join_shape (notEmpty : base ≠ []) :
    ∃ front, (base = front ∨ base = front ++ ['/']) ∧
      ∀ path, isAbsolute path = false → join base path = front ++ '/' :: path := by
  obtain empty | ⟨front, last, rfl⟩ := List.eq_nil_or_concat base
  · exact absurd empty notEmpty
  rw [List.concat_eq_append]
  by_cases slash : last = '/'
  · refine ⟨front, .inr (by rw [slash]), ?_⟩
    intro path relative
    simp [join, relative, slash]
  · refine ⟨front ++ [last], .inl rfl, ?_⟩
    intro path relative
    simp [join, relative, slash]

theorem nil_join (path : Path) : join [] path = path := by
  unfold join
  split <;> rfl

section Join

variable (relative : isAbsolute path = false)
include relative

theorem isAbsolute_join (notEmpty : base ≠ []) :
    isAbsolute (join base path) = isAbsolute base := by
  obtain ⟨front, rfl | rfl, joined⟩ := join_shape notEmpty
  · rw [joined path relative, isAbsolute_append notEmpty]
  · rw [joined path relative, List.append_cons, isAbsolute_append notEmpty]

theorem steps_join (base : Path) : steps (join base path) = steps base ++ steps path := by
  by_cases notEmpty : base = []
  · rw [notEmpty, nil_join]
    rfl
  obtain ⟨front, rfl | rfl, joined⟩ := join_shape notEmpty
  · rw [joined path relative, steps_append]
  · have ending : steps (front ++ ['/']) = steps front := by
      rw [steps_append]
      exact List.append_nil _
    rw [joined path relative, steps_append, ending]

theorem start_join (notEmpty : base ≠ []) : start (join base path) = start base := by
  obtain ⟨front, rfl | rfl, joined⟩ := join_shape notEmpty
  · rw [joined path relative, start_append notEmpty]
  · rw [joined path relative]
    cases front with
    | nil => rfl
    | cons character front => rw [start_append (by simp), start_append (by simp)]

theorem components_join (notEmpty : base ≠ []) :
    components (join base path) = components base ++ steps path := by
  rw [components_eq, components_eq, start_join relative notEmpty, steps_join relative,
    List.append_assoc]

theorem join_append (before inner : Path) :
    join (before ++ '/' :: inner) path = before ++ '/' :: join inner path := by
  cases inner with
  | nil => simp [join, relative]
  | cons character inner =>
      have last : (before ++ '/' :: character :: inner).getLast? =
          (character :: inner).getLast? := by
        rw [List.getLast?_append, List.getLast?_cons_cons]
        rfl
      rw [join, join, last, relative]
      by_cases slash : (character :: inner).getLast? = some '/'
      · simp [slash]
      · simp [slash]

theorem isAbsolute_join_relative {inner : Path} (innerRelative : isAbsolute inner = false) :
    isAbsolute (join inner path) = false := by
  by_cases empty : inner = []
  · rw [empty, nil_join, relative]
  · rw [isAbsolute_join relative empty, innerRelative]

theorem join_assoc {inner : Path} (innerRelative : isAbsolute inner = false) (base : Path) :
    join (join base inner) path = join base (join inner path) := by
  by_cases empty : base = []
  · rw [empty, nil_join, nil_join]
  have both := isAbsolute_join_relative relative innerRelative
  obtain ⟨front, -, joined⟩ := join_shape empty
  rw [joined inner innerRelative, joined _ both, join_append relative]

end Join

/-! Steps written out as a path are the steps of that path. -/

structure IsStep (component : Component) : Prop where
  relative : isAbsolute component.text = false
  alone : steps component.text = [component]

theorem isStep_ofSegment {segment : Text} (busy : isIdle segment = false)
    (oneName : '/' ∉ segment) : IsStep (Component.ofSegment segment) := by
  have relative : isAbsolute segment = false := by
    rw [isAbsolute, beq_eq_false_iff_ne]
    intro slash
    obtain ⟨rest, rfl⟩ := List.head?_eq_some_iff.mp slash
    exact oneName (.head _)
  have alone : steps segment = [Component.ofSegment segment] := by
    rw [steps, segments_eq_self oneName, List.filter_cons_of_pos (by simp [busy])]
    rfl
  constructor
  · rw [ofSegment_text, relative]
  · rw [ofSegment_text, alone]

theorem isStep_of_mem_steps {component : Component} (member : component ∈ steps path) :
    IsStep component := by
  obtain ⟨segment, kept, rfl⟩ := List.mem_map.mp member
  obtain ⟨isSegment, busy⟩ := List.mem_filter.mp kept
  refine isStep_ofSegment (by simpa using busy) ?_
  intro slash
  simpa using Text.not_mem_split isSegment '/' slash

theorem mem_steps {component : Component} {character : Char} (member : component ∈ steps path)
    (inside : character ∈ component.text) : character ∈ path := by
  obtain ⟨segment, kept, rfl⟩ := List.mem_map.mp member
  rw [ofSegment_text] at inside
  exact Text.mem_of_mem_split (List.mem_filter.mp kept).1 inside

theorem mem_ofComponents_steps {character : Char} (member : character ∈ ofComponents (steps path)) :
    character ∈ path ∨ character = '/' := by
  obtain ⟨component, isStep, inside⟩ | slash := mem_ofComponents member
  · exact .inl (mem_steps isStep inside)
  · exact .inr slash

theorem steps_foldl_join {components : List Component}
    (areRelative : ∀ component ∈ components, isAbsolute component.text = false) (first : Path) :
    steps (components.foldl (fun path component => join path component.text) first) =
      steps first ++ components.flatMap fun component => steps component.text := by
  induction components generalizing first with
  | nil => exact (List.append_nil _).symm
  | cons component components ih =>
      rw [List.foldl_cons, ih fun later member => areRelative later (.tail _ member),
        steps_join (areRelative component (.head _)), List.append_assoc, List.flatMap_cons]

theorem isAbsolute_foldl_join {components : List Component}
    (areRelative : ∀ component ∈ components, isAbsolute component.text = false) {first : Path}
    (relative : isAbsolute first = false) :
    isAbsolute (components.foldl (fun path component => join path component.text) first) =
      false := by
  induction components generalizing first with
  | nil => exact relative
  | cons component components ih =>
      have next := isAbsolute_join_relative (areRelative component (.head _)) relative
      exact ih (fun later member => areRelative later (.tail _ member)) next

theorem steps_ofComponents {components : List Component}
    (areSteps : ∀ component ∈ components, IsStep component) :
    steps (ofComponents components) = components := by
  have written := steps_foldl_join (fun component member => (areSteps component member).relative) []
  rw [List.flatMap_congr fun component member => (areSteps component member).alone,
    List.flatMap_singleton'] at written
  exact written

theorem isAbsolute_ofComponents {components : List Component}
    (areRelative : ∀ component ∈ components, isAbsolute component.text = false) :
    isAbsolute (ofComponents components) = false :=
  isAbsolute_foldl_join areRelative rfl

/-! The way to what was joined to a directory. -/

theorem climb_append (shared target base : List Component) :
    climb true (shared ++ target) (shared ++ base) = climb true target base := by
  induction shared with
  | nil => rfl
  | cons component shared ih => simp [climb, ih]

theorem climb_prefix (base rest : List Component) : climb true (base ++ rest) base = some rest := by
  have behind := climb_append base rest []
  rwa [List.append_nil, climb] at behind

section Inside

variable (notEmpty : base ≠ []) (relative : isAbsolute path = false)
include notEmpty relative

theorem difference?_join :
    difference? (join base path) base = some (ofComponents (steps path)) := by
  rw [difference?, isAbsolute_join relative notEmpty, components_join relative notEmpty,
    climb_prefix]
  simp

theorem relativeTo_join :
    relativeTo (join base path) base = forwardSlashes (ofComponents (steps path)) := by
  rw [relativeTo, difference?_join notEmpty relative]
  rfl

end Inside

theorem forwardSlashes_eq_self (none : '\\' ∉ path) : forwardSlashes path = path := by
  have same : ∀ character ∈ path,
      (if character = '\\' then '/' else character) = character := by
    intro character member
    refine if_neg ?_
    rintro rfl
    exact none member
  rw [forwardSlashes, List.map_congr_left same, List.map_id']

/-! Resolution. A way that is followed from its start leads to its target. -/

/-- The components so far, the last one first, with one more. Nothing lies above the root. -/
def resolveStep (resolved : List Component) : Component → List Component
  | .root => [.root]
  | .current => resolved
  | .normal name => .normal name :: resolved
  | .parent =>
      match resolved with
      | .normal _ :: outer => outer
      | .root :: _ => [.root]
      | _ => .parent :: resolved

/-- What a path denotes, by its text alone. -/
def resolve (path : Path) : List Component := ((components path).foldl resolveStep []).reverse

theorem resolve_relativeTo_join (notEmpty : base ≠ []) (relative : isAbsolute path = false)
    (none : '\\' ∉ path) :
    resolve (join base (relativeTo (join base path) base)) = resolve (join base path) := by
  have areSteps : ∀ component ∈ steps path, IsStep component := fun _ => isStep_of_mem_steps
  have noBackslash : '\\' ∉ ofComponents (steps path) := by
    intro member
    obtain inPath | slash := mem_ofComponents_steps member
    · exact none inPath
    · cases slash
  have way : relativeTo (join base path) base = ofComponents (steps path) := by
    rw [relativeTo_join notEmpty relative, forwardSlashes_eq_self noBackslash]
  have wayRelative : isAbsolute (ofComponents (steps path)) = false :=
    isAbsolute_ofComponents fun component member => (areSteps component member).relative
  have same : components (join base (ofComponents (steps path))) =
      components (join base path) := by
    rw [components_join wayRelative notEmpty, steps_ofComponents areSteps,
      components_join relative notEmpty]
  rw [way, resolve, resolve, same]

end Compositor.Path

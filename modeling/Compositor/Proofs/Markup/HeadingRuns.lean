import Compositor.Proofs.Markup.HeadingFlag

/-! Runs of headings. However a translation is divided into calls, a heading starts a page only
where the block visited before it was none, and so only as the first heading of a run. -/

namespace Compositor.Markup

/-! A translation as a sequence of calls, for single blocks and for whole documents, with the
progress of each call handed to the next. -/

inductive Call where
  | block (node : Node)
  | document (nodes : List Node)

namespace Call

def result (setting : Setting) (titleMode : Bool) : Call → Progress → Text × Progress
  | .block node => Markup.block setting titleMode node
  | .document nodes => body setting titleMode nodes

def walk (setting : Setting) (titleMode : Bool) : Call → Progress → Walk
  | .block node => walkBlock setting titleMode node
  | .document nodes => walkBody setting titleMode nodes

def reached : Call → List Node
  | .block node => Markup.reached node
  | .document nodes => reachedAll (topLevel nodes)

end Call

def runCalls (setting : Setting) (titleMode : Bool) : List Call → Progress → Text × Progress
  | [], progress => ([], progress)
  | call :: calls, progress =>
      let (first, progress) := call.result setting titleMode progress
      let (rest, progress) := runCalls setting titleMode calls progress
      (first ++ rest, progress)

def walkCalls (setting : Setting) (titleMode : Bool) : List Call → Progress → Walk
  | [], progress => ⟨[], progress, []⟩
  | call :: calls, progress =>
      let first := call.walk setting titleMode progress
      let rest := walkCalls setting titleMode calls first.progress
      ⟨first.markup ++ rest.markup, rest.progress, first.visits ++ rest.visits⟩

section Calls

variable {setting : Setting} {titleMode : Bool}

theorem Call.walk_result (call : Call) (progress : Progress) :
    (call.walk setting titleMode progress).result = call.result setting titleMode progress := by
  cases call with
  | block node => exact (@walkBlock_result setting titleMode node).1 progress
  | document nodes => exact walkBody_result nodes progress

theorem walkCalls_result (calls : List Call) (progress : Progress) :
    (walkCalls setting titleMode calls progress).result =
      runCalls setting titleMode calls progress := by
  induction calls generalizing progress with
  | nil => rfl
  | cons call calls ih =>
      have first := @call.walk_result setting titleMode progress
      have rest := ih (call.walk setting titleMode progress).progress
      simp only [Walk.result] at first rest ⊢
      simp only [walkCalls, runCalls, ← first, ← rest]

theorem Call.walk_follows (call : Call) (progress : Progress) :
    Follows setting titleMode progress.previousWasHeading
      (call.walk setting titleMode progress).visits
      (call.walk setting titleMode progress).progress.previousWasHeading := by
  have kept := @Markup.walk_follows setting titleMode
  cases call with
  | block node => exact (kept.block_keeps node).1 progress
  | document nodes => exact kept.body_keeps nodes progress

theorem walkCalls_follows (calls : List Call) (progress : Progress) :
    Follows setting titleMode progress.previousWasHeading
      (walkCalls setting titleMode calls progress).visits
      (walkCalls setting titleMode calls progress).progress.previousWasHeading := by
  induction calls generalizing progress with
  | nil => exact .nil _
  | cons call calls ih => exact (call.walk_follows progress).append (ih _)

theorem counted_groupMarker {node : Node} (marker : isGroupMarker node = true) :
    (reached node).filter counts = [] := by
  cases node with
  | raw html => rfl
  | _ => simp [isGroupMarker, Node.isMarker] at marker

theorem counted_unmarked (nodes : List Node) :
    (reachedAll (nodes.filter (! isGroupMarker ·))).filter counts =
      (reachedAll nodes).filter counts := by
  induction nodes with
  | nil => rfl
  | cons node nodes ih =>
      rw [reachedAll, List.filter_append, ← ih]
      cases marker : isGroupMarker node with
      | true =>
          rw [List.filter_cons_of_neg (by simp [marker]), counted_groupMarker marker]
          rfl
      | false =>
          rw [List.filter_cons_of_pos (by simp [marker]), reachedAll, List.filter_append]

theorem Call.walk_counted (call : Call) (progress : Progress) :
    (call.walk setting titleMode progress).nodes.filter counts = call.reached.filter counts := by
  cases call with
  | block node => exact congrArg _ ((walkBlock_nodes node).1 progress)
  | document nodes =>
      obtain ⟨spans, divided⟩ :=
        groups_divided setting.style.keepCodeWithPrevious 0 (topLevel nodes)
      have walked := @walkGroups_nodes setting titleMode
        (groups setting.style.keepCodeWithPrevious (topLevel nodes)) progress
      rw [Call.walk, walkBody, walked, ← counted_unmarked, divided.unmarked, counted_unmarked]
      rfl

theorem walkCalls_counted (calls : List Call) (progress : Progress) :
    (walkCalls setting titleMode calls progress).nodes.filter counts =
      (calls.flatMap Call.reached).filter counts := by
  induction calls generalizing progress with
  | nil => rfl
  | cons call calls ih =>
      have first := @call.walk_counted setting titleMode progress
      have rest := ih (call.walk setting titleMode progress).progress
      rw [List.flatMap_cons, List.filter_append, ← first, ← rest, ← List.filter_append]
      exact congrArg _ List.map_append

end Calls

/-! The visits that count are those of headings and of the blocks that end a run of headings. -/

def Walk.counted (walk : Walk) : List Visit := walk.visits.filter (counts ·.node)

theorem Walk.counted_nodes (walk : Walk) :
    walk.counted.map (·.node) = walk.nodes.filter counts := by
  rw [counted, nodes, List.filter_map]
  rfl

def endInHeading (visits : List Visit) : Bool :=
  (visits.getLast?.map (isHeading ·.node)).getD false

structure HeadingRuns (setting : Setting) (titleMode : Bool) (visits : List Visit)
    (final : Progress) : Prop where
  flag : final.previousWasHeading = endInHeading visits
  flagBefore : ∀ earlier visit later, visits = earlier ++ visit :: later →
    visit.before.previousWasHeading = endInHeading earlier
  set : ∀ visit ∈ visits, visit.markup = (block setting titleMode visit.node visit.before).1
  breaks : ∀ earlier visit later depth children, visits = earlier ++ visit :: later →
    visit.node = .heading depth children →
      (StartsPage visit.markup ↔ ∃ level, setting.style.pageBreakLevel = some level ∧
        depth ≤ level ∧ endInHeading earlier = false)
  -- Only the first heading of a run can start a page.
  runs : ∀ earlier first run later, visits = earlier ++ first :: run ++ later →
    (∀ visit ∈ first :: run, isHeading visit.node = true) →
      ∀ visit ∈ run, ¬StartsPage visit.markup

theorem headingLast_visits {visits : List Visit}
    (counted : ∀ visit ∈ visits, counts visit.node = true) :
    headingLast false (visits.map (·.node)) = endInHeading visits := by
  have all : (visits.map (·.node)).filter counts = visits.map (·.node) := by
    rw [List.filter_eq_self]
    intro node member
    obtain ⟨visit, among, rfl⟩ := List.mem_map.mp member
    exact counted visit among
  rw [headingLast, all, List.getLast?_map, Option.map_map]
  rfl

theorem endInHeading_run {earlier run : List Visit} (nonempty : run ≠ [])
    (headings : ∀ visit ∈ run, isHeading visit.node = true) :
    endInHeading (earlier ++ run) = true := by
  have last := List.getLast?_eq_some_getLast nonempty
  rw [endInHeading, List.getLast?_append, last]
  exact headings _ (List.getLast_mem nonempty)

section Runs

variable {setting : Setting} {titleMode : Bool} {visits : List Visit} {final : Progress}

theorem Follows.headingRuns (counted : ∀ visit ∈ visits, counts visit.node = true)
    (follows : Follows setting titleMode false visits final.previousWasHeading) :
    HeadingRuns setting titleMode visits final := by
  have among {earlier visit later} (split : visits = earlier ++ visit :: later) :
      headingLast false (earlier.map (·.node)) = endInHeading earlier := by
    refine headingLast_visits fun other member => counted other ?_
    rw [split]
    exact List.mem_append_left _ member
  have breaks (earlier : List Visit) (visit : Visit) (later : List Visit) (depth : UInt8)
      (children : List Node) (split : visits = earlier ++ visit :: later)
      (heading : visit.node = .heading depth children) :
      StartsPage visit.markup ↔ ∃ level, setting.style.pageBreakLevel = some level ∧
        depth ≤ level ∧ endInHeading earlier = false := by
    rw [← among split]
    exact (split ▸ follows).breaks heading
  refine ⟨?_, ?_, ?_, breaks, ?_⟩
  · rw [follows.final, headingLast_visits counted]
  · intro earlier visit later split
    rw [← among split]
    exact (split ▸ follows).at.1
  · intro visit member
    obtain ⟨earlier, later, split⟩ := List.append_of_mem member
    exact (split ▸ follows).at.2
  · intro earlier first run later split headings visit member starts
    obtain ⟨inner, rest, rfl⟩ := List.append_of_mem member
    obtain ⟨depth, children, heading⟩ := exists_heading (headings visit (.tail _ member))
    have here : visits = (earlier ++ first :: inner) ++ visit :: (rest ++ later) := by
      rw [split]
      simp only [List.append_assoc, List.cons_append]
    obtain ⟨level, -, -, apart⟩ := (breaks _ _ _ depth children here heading).mp starts
    have run : endInHeading (earlier ++ first :: inner) = true := by
      refine endInHeading_run (List.cons_ne_nil _ _) fun other member => headings other ?_
      exact List.mem_append_left (visit :: rest) member
    rw [run] at apart
    cases apart

end Runs

/-- However blocks and documents follow each other, the progress tells whether the block visited
last was a heading. A heading starts a page if it is not too deep and none was visited just before
it, so each run of headings starts one page at most, with its first heading. -/
theorem calls_headingRuns (setting : Setting) (titleMode : Bool) (calls : List Call) :
    let walk := walkCalls setting titleMode calls {}
    walk.result = runCalls setting titleMode calls {} ∧
      walk.counted.map (·.node) = (calls.flatMap Call.reached).filter counts ∧
        HeadingRuns setting titleMode walk.counted walk.progress := by
  intro walk
  refine ⟨walkCalls_result calls {}, ?_, ?_⟩
  · exact walk.counted_nodes.trans (walkCalls_counted calls {})
  · have follows := (@walkCalls_follows setting titleMode calls {}).counted
    exact follows.headingRuns fun visit member => (List.mem_filter.mp member).2

end Compositor.Markup

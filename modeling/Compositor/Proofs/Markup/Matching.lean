import Compositor.Proofs.Markup.Division

/-! The matching of group markers as brackets. A pass over the nodes with a stack of open start
markers tells which markers belong together; the search for the end of a single start marker finds
its partner in this matching. -/

namespace Compositor.Markup

/-- The pairs of markers among numbered nodes. An end marker goes with the start marker that was
opened last; `opened` are the places of those that are still open, the last one first. A marker
without a partner is in no pair. -/
def markerPairs : (opened : List Nat) → List (Node × Nat) → List (Nat × Nat)
  | _, [] => []
  | opened, (node, position) :: rest =>
      if node.isMarker keepTogetherStart then markerPairs (position :: opened) rest
      else if node.isMarker keepTogetherEnd then
        match opened with
        | [] => markerPairs [] rest
        | latest :: opened => (latest, position) :: markerPairs opened rest
      else markerPairs opened rest

def openAfter : (opened : List Nat) → List (Node × Nat) → List Nat
  | opened, [] => opened
  | opened, (node, position) :: rest =>
      if node.isMarker keepTogetherStart then openAfter (position :: opened) rest
      else if node.isMarker keepTogetherEnd then openAfter opened.tail rest
      else openAfter opened rest

section Steps

variable {node : Node} (position : Nat) (opened : List Nat) (rest : List (Node × Nat))

theorem markerPairs_start (starts : node.isMarker keepTogetherStart = true) :
    markerPairs opened ((node, position) :: rest) = markerPairs (position :: opened) rest := by
  simp only [markerPairs, starts, if_true]

theorem openAfter_start (starts : node.isMarker keepTogetherStart = true) :
    openAfter opened ((node, position) :: rest) = openAfter (position :: opened) rest := by
  simp only [openAfter, starts, if_true]

theorem markerPairs_end (latest : Nat) (other : node.isMarker keepTogetherStart = false)
    (ends : node.isMarker keepTogetherEnd = true) :
    markerPairs (latest :: opened) ((node, position) :: rest) =
      (latest, position) :: markerPairs opened rest := by
  simp only [markerPairs, other, ends, Bool.false_eq_true, if_false, if_true]

theorem markerPairs_strayEnd (other : node.isMarker keepTogetherStart = false)
    (ends : node.isMarker keepTogetherEnd = true) :
    markerPairs [] ((node, position) :: rest) = markerPairs [] rest := by
  simp only [markerPairs, other, ends, Bool.false_eq_true, if_false, if_true]

theorem openAfter_end (other : node.isMarker keepTogetherStart = false)
    (ends : node.isMarker keepTogetherEnd = true) :
    openAfter opened ((node, position) :: rest) = openAfter opened.tail rest := by
  simp only [openAfter, other, ends, Bool.false_eq_true, if_false, if_true]

theorem markerPairs_plain (plain : isGroupMarker node = false) :
    markerPairs opened ((node, position) :: rest) = markerPairs opened rest := by
  simp only [isGroupMarker, Bool.or_eq_false_iff] at plain
  simp only [markerPairs, plain.1, plain.2, Bool.false_eq_true, if_false]

theorem openAfter_plain (plain : isGroupMarker node = false) :
    openAfter opened ((node, position) :: rest) = openAfter opened rest := by
  simp only [isGroupMarker, Bool.or_eq_false_iff] at plain
  simp only [openAfter, plain.1, plain.2, Bool.false_eq_true, if_false]

end Steps

theorem marker_cases (node : Node) :
    node.isMarker keepTogetherStart = true ∨
      (node.isMarker keepTogetherStart = false ∧ node.isMarker keepTogetherEnd = true) ∨
      isGroupMarker node = false := by
  cases starts : node.isMarker keepTogetherStart <;>
    cases ends : node.isMarker keepTogetherEnd <;>
    simp [isGroupMarker, starts, ends]

theorem markerPairs_append (opened : List Nat) (first second : List (Node × Nat)) :
    markerPairs opened (first ++ second) =
      markerPairs opened first ++ markerPairs (openAfter opened first) second := by
  induction first generalizing opened with
  | nil => rfl
  | cons numbered first ih =>
      obtain ⟨node, position⟩ := numbered
      rw [List.cons_append]
      rcases marker_cases node with starts | ⟨other, ends⟩ | plain
      · rw [markerPairs_start _ _ _ starts, markerPairs_start _ _ _ starts,
          openAfter_start _ _ _ starts, ih]
      · rw [openAfter_end _ _ _ other ends]
        cases opened with
        | nil =>
            rw [markerPairs_strayEnd _ _ other ends, markerPairs_strayEnd _ _ other ends, ih]
            rfl
        | cons latest opened =>
            rw [markerPairs_end _ _ _ _ other ends, markerPairs_end _ _ _ _ other ends, ih]
            rfl
      · rw [markerPairs_plain _ _ _ plain, markerPairs_plain _ _ _ plain,
          openAfter_plain _ _ _ plain, ih]

theorem markerPairs_bounds {opened : List Nat} {nodes : List Node} {position : Nat}
    {pair : Nat × Nat} (member : pair ∈ markerPairs opened (nodes.zipIdx position)) :
    (pair.1 ∈ opened ∨ position ≤ pair.1 ∧ pair.1 < pair.2) ∧
      position ≤ pair.2 ∧ pair.2 < position + nodes.length := by
  induction nodes generalizing opened position with
  | nil => simp [markerPairs] at member
  | cons node nodes ih =>
      rw [List.zipIdx_cons] at member
      rw [List.length_cons]
      rcases marker_cases node with starts | ⟨other, ends⟩ | plain
      · rw [markerPairs_start _ _ _ starts] at member
        obtain ⟨start, lower, upper⟩ := ih member
        refine ⟨?_, by omega, by omega⟩
        rcases start with known | ⟨after, before⟩
        · rcases List.mem_cons.mp known with here | known
          · exact Or.inr ⟨by omega, by omega⟩
          · exact Or.inl known
        · exact Or.inr ⟨by omega, before⟩
      · cases opened with
        | nil =>
            rw [markerPairs_strayEnd _ _ other ends] at member
            obtain ⟨start, lower, upper⟩ := ih member
            exact ⟨start.imp_right fun bounds => ⟨by omega, bounds.2⟩, by omega, by omega⟩
        | cons latest opened =>
            rw [markerPairs_end _ _ _ _ other ends] at member
            rcases List.mem_cons.mp member with rfl | later
            · exact ⟨Or.inl (.head _), by omega, by omega⟩
            · obtain ⟨start, lower, upper⟩ := ih later
              exact ⟨start.imp (.tail _) fun bounds => ⟨by omega, bounds.2⟩, by omega, by omega⟩
      · rw [markerPairs_plain _ _ _ plain] at member
        obtain ⟨start, lower, upper⟩ := ih member
        exact ⟨start.imp_right fun bounds => ⟨by omega, bounds.2⟩, by omega, by omega⟩

theorem openAfter_bounds {opened : List Nat} {nodes : List Node} {position start : Nat}
    (member : start ∈ openAfter opened (nodes.zipIdx position)) :
    start ∈ opened ∨ start < position + nodes.length := by
  induction nodes generalizing opened position with
  | nil => exact Or.inl member
  | cons node nodes ih =>
      rw [List.zipIdx_cons] at member
      rw [List.length_cons]
      rcases marker_cases node with starts | ⟨other, ends⟩ | plain
      · rw [openAfter_start _ _ _ starts] at member
        rcases ih member with known | below
        · rcases List.mem_cons.mp known with here | known
          · exact Or.inr (by omega)
          · exact Or.inl known
        · exact Or.inr (by omega)
      · rw [openAfter_end _ _ _ other ends] at member
        exact (ih member).imp List.mem_of_mem_tail fun below => by omega
      · rw [openAfter_plain _ _ _ plain] at member
        exact (ih member).imp id fun below => by omega

/-! The search for an end marker and its counter. -/

theorem Passes.matching {depth final : Nat} {nodes : List Node} (passes : Passes depth nodes final)
    (deep : List Nat) (position : Nat) (enough : deep.length = depth) :
    ∃ left, left.length = final ∧ ∀ below,
      openAfter (deep ++ below) (nodes.zipIdx position) = left ++ below ∧
        markerPairs (deep ++ below) (nodes.zipIdx position) =
          markerPairs deep (nodes.zipIdx position) := by
  induction passes generalizing deep position with
  | nil => exact ⟨deep, enough, fun below => ⟨rfl, rfl⟩⟩
  | @start depth node nodes final starts rest ih =>
      obtain ⟨left, length, same⟩ := ih (position :: deep) (position + 1) (by simp [enough])
      refine ⟨left, length, fun below => ?_⟩
      rw [List.zipIdx_cons, openAfter_start _ _ _ starts, markerPairs_start _ _ _ starts,
        markerPairs_start _ _ _ starts]
      exact same below
  | @stop depth node nodes final other ends rest ih =>
      obtain ⟨latest, deep, rfl⟩ := List.exists_cons_of_length_eq_add_one enough
      obtain ⟨left, length, same⟩ := ih deep (position + 1) (by simpa using enough)
      refine ⟨left, length, fun below => ?_⟩
      rw [List.zipIdx_cons, openAfter_end _ _ _ other ends, List.cons_append,
        markerPairs_end _ _ _ _ other ends, markerPairs_end _ _ _ _ other ends, (same below).2]
      exact ⟨(same below).1, rfl⟩
  | @plain depth node nodes final other rest ih =>
      obtain ⟨left, length, same⟩ := ih deep (position + 1) enough
      refine ⟨left, length, fun below => ?_⟩
      rw [List.zipIdx_cons, openAfter_plain _ _ _ other, markerPairs_plain _ _ _ other,
        markerPairs_plain _ _ _ other]
      exact same below

theorem markerPairs_unclosed {node : Node} {nodes : List Node} {final : Nat} (opened : List Nat)
    (position : Nat) (starts : node.isMarker keepTogetherStart = true)
    (passes : Passes 0 nodes final) :
    markerPairs opened ((node :: nodes).zipIdx position) =
      markerPairs [] (nodes.zipIdx (position + 1)) := by
  obtain ⟨left, -, same⟩ := passes.matching [] (position + 1) rfl
  rw [List.zipIdx_cons, markerPairs_start _ _ _ starts]
  exact (same (position :: opened)).2

theorem markerPairs_held {opening closing : Node} {inner after : List Node} (opened : List Nat)
    (position : Nat) (starts : opening.isMarker keepTogetherStart = true)
    (passes : Passes 0 inner 0) (other : closing.isMarker keepTogetherStart = false)
    (ends : closing.isMarker keepTogetherEnd = true) :
    markerPairs opened ((opening :: (inner ++ closing :: after)).zipIdx position) =
      markerPairs [] (inner.zipIdx (position + 1)) ++
        (position, position + 1 + inner.length) ::
          markerPairs opened (after.zipIdx (position + 1 + inner.length + 1)) := by
  obtain ⟨left, empty, same⟩ := passes.matching [] (position + 1) rfl
  obtain rfl := List.length_eq_zero_iff.mp empty
  obtain ⟨stack, pairs⟩ := same (position :: opened)
  rw [List.zipIdx_cons, markerPairs_start _ _ _ starts, List.zipIdx_append, markerPairs_append]
  rw [List.nil_append] at stack pairs
  rw [stack, pairs, List.zipIdx_cons, markerPairs_end _ _ _ _ other ends]

def closing? (nodes : List Node) (start : Nat) : Option Nat :=
  (splitAtEnd? 0 (nodes.drop (start + 1))).map fun (inner, _) => start + 1 + inner.length

theorem closing?_eq_some_iff {nodes : List Node} {node : Node} {start stop : Nat}
    (here : nodes[start]? = some node) (starts : node.isMarker keepTogetherStart = true) :
    closing? nodes start = some stop ↔ (start, stop) ∈ markerPairs [] nodes.zipIdx := by
  obtain ⟨bound, rfl⟩ := List.getElem?_eq_some_iff.mp here
  have length : (nodes.take start).length = start := by
    rw [List.length_take]
    omega
  have parts : nodes = nodes.take start ++ nodes[start] :: nodes.drop (start + 1) := by
    rw [← List.drop_eq_getElem_cons bound, List.take_append_drop]
  have earlier (later : Nat) : (start, later) ∉ markerPairs [] (nodes.take start).zipIdx := by
    intro member
    have bounds := markerPairs_bounds member
    simp only [List.not_mem_nil, false_or, length] at bounds
    omega
  have fresh : start ∉ openAfter [] (nodes.take start).zipIdx := by
    intro member
    have bounds := openAfter_bounds member
    simp only [List.not_mem_nil, false_or, length] at bounds
    omega
  have inside {below : List Node} {later : Nat} :
      (start, later) ∉ markerPairs [] (below.zipIdx (start + 1)) := by
    intro member
    have bounds := markerPairs_bounds member
    simp only [List.not_mem_nil, false_or] at bounds
    omega
  rw [closing?]
  conv => rhs; rw [parts, List.zipIdx_append, markerPairs_append, length, Nat.zero_add]
  cases found : splitAtEnd? 0 (nodes.drop (start + 1)) with
  | none =>
      obtain ⟨final, passes⟩ := splitAtEnd?_none found
      rw [markerPairs_unclosed _ _ starts passes]
      simp [earlier, inside]
  | some split =>
      obtain ⟨inner, after⟩ := split
      obtain ⟨passes, closing, same, other, ends⟩ := splitAtEnd?_some found
      have outside : (start, stop) ∉ markerPairs (openAfter [] (nodes.take start).zipIdx)
          (after.zipIdx (start + 1 + inner.length + 1)) := by
        intro member
        rcases (markerPairs_bounds member).1 with known | bounds
        · exact fresh known
        · omega
      rw [same, markerPairs_held _ _ starts passes other ends]
      simp [earlier, inside, outside, eq_comm]

/-- The counter of a search: the start markers open after a start marker and the nodes passed. -/
def openCount (passed : List Node) : Int :=
  1 + passed.countP (·.isMarker keepTogetherStart) - passed.countP (·.isMarker keepTogetherEnd)

def searched (nodes : List Node) (start : Nat) : List Node :=
  match splitAtEnd? 0 (nodes.drop (start + 1)) with
  | some (inner, _) => inner
  | none => nodes.drop (start + 1)

theorem isMarker_end_of_start {node : Node} (starts : node.isMarker keepTogetherStart = true) :
    node.isMarker keepTogetherEnd = false := by
  cases node with
  | raw html =>
      simp only [Node.isMarker, beq_iff_eq] at starts
      simp only [Node.isMarker, starts]
      decide
  | _ => rfl

theorem Passes.count {depth final : Nat} {nodes : List Node} (passes : Passes depth nodes final) :
    depth + nodes.countP (·.isMarker keepTogetherStart) =
      final + nodes.countP (·.isMarker keepTogetherEnd) := by
  induction passes with
  | nil => rw [List.countP_nil, List.countP_nil]
  | start starts rest ih =>
      simp only [List.countP_cons, starts, isMarker_end_of_start starts, if_true,
        Bool.false_eq_true, if_false]
      omega
  | stop other ends rest ih =>
      simp only [List.countP_cons, other, ends, if_true, Bool.false_eq_true, if_false]
      omega
  | plain other rest ih =>
      simp only [isGroupMarker, Bool.or_eq_false_iff] at other
      simp only [List.countP_cons, other.1, other.2, Bool.false_eq_true, if_false]
      omega

theorem Passes.earlier {depth final : Nat} {nodes passed : List Node}
    (passes : Passes depth nodes final) (before : passed <+: nodes) :
    ∃ between, Passes depth passed between := by
  induction passes generalizing passed with
  | nil depth =>
      rw [List.prefix_nil.mp before]
      exact ⟨depth, .nil depth⟩
  | @start depth node nodes final starts rest ih =>
      rcases List.prefix_cons_iff.mp before with rfl | ⟨inner, rfl, within⟩
      · exact ⟨depth, .nil depth⟩
      · obtain ⟨between, passes⟩ := ih within
        exact ⟨between, .start starts passes⟩
  | @stop depth node nodes final other ends rest ih =>
      rcases List.prefix_cons_iff.mp before with rfl | ⟨inner, rfl, within⟩
      · exact ⟨depth + 1, .nil _⟩
      · obtain ⟨between, passes⟩ := ih within
        exact ⟨between, .stop other ends passes⟩
  | @plain depth node nodes final other rest ih =>
      rcases List.prefix_cons_iff.mp before with rfl | ⟨inner, rfl, within⟩
      · exact ⟨depth, .nil depth⟩
      · obtain ⟨between, passes⟩ := ih within
        exact ⟨between, .plain other passes⟩

theorem openCount_pos {nodes passed : List Node} {start : Nat}
    (before : passed <+: searched nodes start) : 0 < openCount passed := by
  have passes : ∃ final, Passes 0 (searched nodes start) final := by
    unfold searched
    split
    next inner after found => exact ⟨0, (splitAtEnd?_some found).1⟩
    next missing => exact splitAtEnd?_none missing
  obtain ⟨final, passes⟩ := passes
  obtain ⟨between, passes⟩ := passes.earlier before
  have count := passes.count
  unfold openCount
  omega

end Compositor.Markup

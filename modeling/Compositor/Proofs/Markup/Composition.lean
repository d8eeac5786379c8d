import Compositor.Proofs.Markup.KeepTogether

/-! Documents one after the other. What follows a document cannot change how its nodes are grouped
once each of its start markers is closed: the search from a start marker ends at its own end, and
only a paragraph at the very end can still be paired with code behind it. So the body of two
documents is the one body and then the other. -/

namespace Compositor.Markup

/-- Every start marker among the nodes, the first of which is at `position`, has its end there. -/
def Closed (position : Nat) (nodes : List Node) : Prop :=
  ∀ numbered ∈ nodes.zipIdx position, numbered.1.isMarker keepTogetherStart = true →
    ∃ pair ∈ markerPairs [] (nodes.zipIdx position), pair.1 = numbered.2

instance (position : Nat) (nodes : List Node) : Decidable (Closed position nodes) :=
  inferInstanceAs (Decidable (∀ numbered ∈ nodes.zipIdx position, _ → _))

/-- A paragraph at the end of the first nodes would be kept together with code at the start of the
second. -/
def Paired (pairCode : Bool) (first second : List Node) : Prop :=
  pairCode = true ∧ (∃ paragraph ∈ first.getLast?, paragraph.isParagraph = true) ∧
    ∃ code ∈ second.head?, code.isCodeBlock = true

instance (pairCode : Bool) (first second : List Node) : Decidable (Paired pairCode first second) :=
  inferInstanceAs (Decidable (_ ∧ _ ∧ _))

theorem Paired.suffix {pairCode : Bool} {first after second : List Node}
    (paired : Paired pairCode after second) (behind : after <:+ first) :
    Paired pairCode first second := by
  obtain ⟨before, rfl⟩ := behind
  obtain ⟨pairs, ⟨last, isLast, isParagraph⟩, code⟩ := paired
  refine ⟨pairs, ⟨last, ?_, isParagraph⟩, code⟩
  rw [List.getLast?_append, Option.mem_def.mp isLast]
  rfl

section Closed

variable {node opening closing : Node} {nodes inner after : List Node} {position : Nat}

theorem Closed.tail (closed : Closed position (node :: nodes))
    (same : markerPairs [] ((node :: nodes).zipIdx position) =
      markerPairs [] (nodes.zipIdx (position + 1))) : Closed (position + 1) nodes := by
  intro numbered member starts
  have found := closed numbered (.tail _ member) starts
  rwa [same] at found

theorem Closed.held (closed : Closed position (opening :: (inner ++ closing :: after)))
    (starts : opening.isMarker keepTogetherStart = true) (passes : Passes 0 inner 0)
    (other : closing.isMarker keepTogetherStart = false)
    (ends : closing.isMarker keepTogetherEnd = true) :
    Closed (position + 1 + inner.length + 1) after := by
  intro numbered member isStart
  have behind := List.le_snd_of_mem_zipIdx member
  have whole : numbered ∈ (opening :: (inner ++ closing :: after)).zipIdx position := by
    rw [List.zipIdx_cons, List.zipIdx_append]
    exact .tail _ (List.mem_append_right _ (.tail _ member))
  obtain ⟨pair, found, here⟩ := closed numbered whole isStart
  rw [markerPairs_held [] position starts passes other ends, List.mem_append,
    List.mem_cons] at found
  rcases found with inside | rfl | later
  · have bounds := markerPairs_bounds inside
    simp only [List.not_mem_nil, false_or] at bounds
    omega
  · simp only at here
    omega
  · exact ⟨pair, later, here⟩

theorem Closed.noStart (closed : Closed position (node :: nodes))
    (opened : node.isMarker keepTogetherStart = true → ∃ final, Passes 0 nodes final) :
    node.isMarker keepTogetherStart = false := by
  refine Bool.eq_false_iff.mpr fun starts => ?_
  obtain ⟨final, passes⟩ := opened starts
  have here : (node, position) ∈ (node :: nodes).zipIdx position := by
    rw [List.zipIdx_cons]
    exact .head _
  obtain ⟨pair, found, same⟩ := closed _ here starts
  rw [markerPairs_unclosed [] position starts passes] at found
  have bounds := markerPairs_bounds found
  simp only [List.not_mem_nil, false_or] at bounds same
  omega

theorem markerPairs_noStart (position : Nat) (nodes : List Node)
    (other : node.isMarker keepTogetherStart = false) :
    markerPairs [] ((node :: nodes).zipIdx position) =
      markerPairs [] (nodes.zipIdx (position + 1)) := by
  rw [List.zipIdx_cons]
  rcases marker_cases node with starts | ⟨-, ends⟩ | plain
  · rw [starts] at other
    contradiction
  · exact markerPairs_strayEnd _ _ other ends
  · exact markerPairs_plain _ _ _ plain

end Closed

theorem splitAtEnd?_passes {depth : Nat} {inner : List Node} {closing : Node}
    (passes : Passes depth inner 0) (other : closing.isMarker keepTogetherStart = false)
    (ends : closing.isMarker keepTogetherEnd = true) (after : List Node) :
    splitAtEnd? depth (inner ++ closing :: after) = some (inner, after) := by
  generalize closed : 0 = final at passes
  induction passes with
  | nil depth =>
      subst closed
      simp [splitAtEnd?, other, ends]
  | start starts rest ih => simp [splitAtEnd?, starts, ih closed]
  | stop notStart isEnd rest ih => simp [splitAtEnd?, notStart, isEnd, ih closed]
  | plain notMarker rest ih =>
      simp only [isGroupMarker, Bool.or_eq_false_iff] at notMarker
      simp [splitAtEnd?, notMarker.1, notMarker.2, ih closed]

/-! Grouping. -/

section Groups

variable {pairCode : Bool}

theorem heldBy?_noStart {node : Node} (other : node.isMarker keepTogetherStart = false)
    (nodes : List Node) : heldBy? node nodes = none := by
  rw [heldBy?, other]
  rfl

theorem groups_single {node : Node} {nodes : List Node}
    (other : node.isMarker keepTogetherStart = false)
    (alone : pairCode = true → node.isParagraph = true → ∀ code ∈ nodes.head?,
      code.isCodeBlock = false) :
    groups pairCode (node :: nodes) = ⟨false, [node]⟩ :: groups pairCode nodes := by
  rw [groups_loose pairCode (heldBy?_noStart other nodes)]
  cases nodes with
  | nil => simp [groups]
  | cons next rest =>
      refine if_neg ?_
      intro pair
      simp only [Bool.and_eq_true] at pair
      have isOther := alone pair.1.1 pair.1.2 next rfl
      rw [pair.2] at isOther
      contradiction

theorem groups_pair {paragraph code : Node} (pairs : pairCode = true)
    (isParagraph : paragraph.isParagraph = true) (isCode : code.isCodeBlock = true)
    (nodes : List Node) :
    groups pairCode (paragraph :: code :: nodes) =
      ⟨true, [paragraph, code]⟩ :: groups pairCode nodes := by
  have notMarker := isGroupMarker_paragraph isParagraph
  simp only [isGroupMarker, Bool.or_eq_false_iff] at notMarker
  rw [groups_loose pairCode (heldBy?_noStart notMarker.1 _)]
  exact if_pos (by simp [pairs, isParagraph, isCode])

theorem Divided.append {position : Nat} {first : List Node} {firstGroups : List Group}
    {spans : List Span} (divided : Divided pairCode position first firstGroups spans)
    (closed : Closed position first) {second : List Node} (apart : ¬Paired pairCode first second) :
    groups pairCode (first ++ second) = firstGroups ++ groups pairCode second := by
  induction divided with
  | nil => rfl
  | @held position opening inner closing after laterGroups spans starts passes other ends rest ih =>
      have found : heldBy? opening (inner ++ closing :: (after ++ second)) =
          some (inner, after ++ second) := by
        rw [heldBy?, if_pos starts, splitAtEnd?_passes passes other ends]
      have behind : after <:+ opening :: (inner ++ closing :: after) :=
        ⟨opening :: (inner ++ [closing]), by simp⟩
      have later := ih (closed.held starts passes other ends) fun paired =>
        apart (paired.suffix behind)
      rw [List.cons_append, List.append_assoc, List.cons_append, groups_held pairCode found, later,
        List.cons_append]
  | @code position paragraph code after laterGroups spans pairs isParagraph isCode rest ih =>
      have notMarker := isGroupMarker_paragraph isParagraph
      have codeNotMarker := isGroupMarker_codeBlock isCode
      simp only [isGroupMarker, Bool.or_eq_false_iff] at notMarker codeNotMarker
      have closedBehind := (closed.tail (markerPairs_noStart _ _ notMarker.1)).tail
        (markerPairs_noStart _ _ codeNotMarker.1)
      have later := ih closedBehind fun paired =>
        apart (paired.suffix (List.suffix_append [paragraph, code] after))
      rw [List.cons_append, List.cons_append, groups_pair pairs isParagraph isCode, later,
        List.cons_append]
  | @single position node after laterGroups spans opened alone rest ih =>
      have other := closed.noStart opened
      have later := ih (closed.tail (markerPairs_noStart _ _ other)) fun paired =>
        apart (paired.suffix (List.suffix_cons node after))
      have stillAlone : pairCode = true → node.isParagraph = true →
          ∀ code ∈ (after ++ second).head?, code.isCodeBlock = false := by
        intro on isParagraph code isNext
        cases after with
        | nil =>
            -- The node is the last one, and it is not paired with what follows.
            refine Bool.eq_false_iff.mpr fun isCode => apart ⟨on, ⟨node, rfl, isParagraph⟩, ?_⟩
            exact ⟨code, isNext, isCode⟩
        | cons next more =>
            obtain rfl : next = code := by simpa using isNext
            exact alone on isParagraph next more rfl
      rw [List.cons_append, groups_single other stillAlone, later, List.cons_append]

end Groups

theorem groupsMarkup_append (setting : Setting) (titleMode : Bool) (first second : List Group)
    (progress : Progress) :
    groupsMarkup setting titleMode (first ++ second) progress =
      ((groupsMarkup setting titleMode first progress).1 ++
          (groupsMarkup setting titleMode second
            (groupsMarkup setting titleMode first progress).2).1,
        (groupsMarkup setting titleMode second
          (groupsMarkup setting titleMode first progress).2).2) := by
  induction first generalizing progress with
  | nil => rfl
  | cons group first ih =>
      rw [List.cons_append, groupsMarkup_cons, groupsMarkup_cons, ih]
      simp only [List.append_assoc]

/-- The body of two documents, set with the progress passed on from the first to the second. -/
theorem body_append (setting : Setting) (titleMode : Bool) {first second : List Node}
    (closed : Closed 0 (topLevel first))
    (apart : ¬Paired setting.style.keepCodeWithPrevious (topLevel first) (topLevel second))
    (progress : Progress) :
    body setting titleMode (first ++ second) progress =
      ((body setting titleMode first progress).1 ++
          (body setting titleMode second (body setting titleMode first progress).2).1,
        (body setting titleMode second (body setting titleMode first progress).2).2) := by
  obtain ⟨spans, divided⟩ := groups_divided setting.style.keepCodeWithPrevious 0 (topLevel first)
  have grouped := divided.append closed apart
  unfold topLevel at grouped
  rw [body, List.filter_append, grouped, groupsMarkup_append]
  rfl

theorem body_append_strayEnds :
    let start : Node := .raw "<!-- keep-together -->"
    let stop : Node := .raw "<!-- /keep-together -->"
    let first : List Node :=
      [.frontMatter "toc_depth: 2", stop, start, .heading 2 [.text "Flow"], start,
        .codeBlock (some "mermaid") "a --> b", stop, stop, .paragraph [.text "Text"],
        .frontMatter "toc_depth: 3"]
    let second : List Node := [stop, .codeBlock (some "mermaid") "b --> c"]
    let setting : Setting :=
      { diagrams := [⟨"diagram-0", "diagrams/diagram-0.png"⟩,
          ⟨"diagram-1", "diagrams/diagram-1.png"⟩] }
    Closed 0 (topLevel first) ∧
      ¬Paired setting.style.keepCodeWithPrevious (topLevel first) (topLevel second) ∧
      body setting false (first ++ second) {} =
        ((body setting false first {}).1 ++
            (body setting false second (body setting false first {}).2).1,
          (body setting false second (body setting false first {}).2).2) := by
  intro start stop first second setting
  have closed : Closed 0 (topLevel first) := by decide +kernel
  have apart :
      ¬Paired setting.style.keepCodeWithPrevious (topLevel first) (topLevel second) := by
    decide +kernel
  exact ⟨closed, apart, body_append setting false closed apart {}⟩

end Compositor.Markup

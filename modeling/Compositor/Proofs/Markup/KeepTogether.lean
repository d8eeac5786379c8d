import Compositor.Proofs.Markup.Matching

/-! Which nodes are kept together. The wrappers of a body stand around what the outermost pairs of
markers hold and around each paragraph with code after it outside of these pairs. -/

namespace Compositor.Markup

def Outermost (numbered : List (Node × Nat)) (pair : Nat × Nat) : Prop :=
  pair ∈ markerPairs [] numbered ∧
    ∀ other ∈ markerPairs [] numbered, ¬(other.1 < pair.1 ∧ pair.2 < other.2)

def Encloses (pair : Nat × Nat) (position : Nat) : Prop := pair.1 < position ∧ position < pair.2

structure CodePair (numbered : List (Node × Nat)) (position : Nat) : Prop where
  paragraph : ∃ node, (node, position) ∈ numbered ∧ node.isParagraph = true
  code : ∃ node, (node, position + 1) ∈ numbered ∧ node.isCodeBlock = true
  outside : ∀ pair, Outermost numbered pair →
    ¬Encloses pair position ∧ ¬Encloses pair (position + 1)

inductive Kept (pairCode : Bool) (numbered : List (Node × Nat)) : Span → Prop
  | held {start stop} (outermost : Outermost numbered (start, stop)) :
      Kept pairCode numbered ⟨start + 1, stop⟩
  | code {position} (pairs : pairCode = true) (pair : CodePair numbered position) :
      Kept pairCode numbered ⟨position, position + 2⟩

theorem isMarker_other {node : Node} {marker : Text} (isMarker : node.isMarker marker = true) :
    node.isParagraph = false ∧ node.isCodeBlock = false := by
  cases node with
  | raw html => exact ⟨rfl, rfl⟩
  | _ => simp [Node.isMarker] at isMarker

theorem isGroupMarker_paragraph {node : Node} (isParagraph : node.isParagraph = true) :
    isGroupMarker node = false := by
  cases node with
  | paragraph children => rfl
  | _ => simp [Node.isParagraph] at isParagraph

theorem isGroupMarker_codeBlock {node : Node} (isCode : node.isCodeBlock = true) :
    isGroupMarker node = false := by
  cases node with
  | codeBlock language code => rfl
  | _ => simp [Node.isCodeBlock] at isCode

theorem isParagraph_of_codeBlock {node : Node} (isCode : node.isCodeBlock = true) :
    node.isParagraph = false := by
  cases node with
  | codeBlock language code => rfl
  | _ => simp [Node.isCodeBlock] at isCode

section Held

variable {opening closing : Node} {inner after : List Node} {position : Nat}

theorem mem_held_behind {node : Node} {place : Nat} (behind : position + 1 + inner.length < place) :
    (node, place) ∈ (opening :: (inner ++ closing :: after)).zipIdx position ↔
      (node, place) ∈ after.zipIdx (position + 1 + inner.length + 1) := by
  have notInside : (node, place) ∉ inner.zipIdx (position + 1) := by
    intro member
    have bound := List.snd_lt_add_of_mem_zipIdx member
    simp only at bound
    omega
  simp only [List.zipIdx_cons, List.zipIdx_append, List.mem_cons, List.mem_append, Prod.mk.injEq,
    notInside, false_or]
  constructor
  · rintro (⟨-, here⟩ | ⟨-, here⟩ | member)
    · omega
    · omega
    · exact member
  · exact fun member => Or.inr (Or.inr member)

variable (position)
  (starts : opening.isMarker keepTogetherStart = true) (passes : Passes 0 inner 0)
  (other : closing.isMarker keepTogetherStart = false)
  (ends : closing.isMarker keepTogetherEnd = true)
include starts passes other ends

theorem outermost_held (after : List Node) (pair : Nat × Nat) :
    Outermost ((opening :: (inner ++ closing :: after)).zipIdx position) pair ↔
      pair = (position, position + 1 + inner.length) ∨
        Outermost (after.zipIdx (position + 1 + inner.length + 1)) pair := by
  have inside {found : Nat × Nat} (member : found ∈ markerPairs [] (inner.zipIdx (position + 1))) :=
    markerPairs_bounds member
  have behind {found : Nat × Nat}
      (member : found ∈ markerPairs [] (after.zipIdx (position + 1 + inner.length + 1))) :=
    markerPairs_bounds member
  simp only [List.not_mem_nil, false_or] at inside behind
  unfold Outermost
  rw [markerPairs_held [] position starts passes other ends]
  simp only [List.mem_append, List.mem_cons]
  constructor
  · rintro ⟨member | same | member, outermost⟩
    · -- A pair between the two markers is not outermost.
      have bounds := inside member
      exact absurd ⟨by omega, by omega⟩ (outermost _ (Or.inr (Or.inl rfl)))
    · exact Or.inl same
    · exact Or.inr ⟨member, fun found later => outermost found (Or.inr (Or.inr later))⟩
  · rintro (rfl | ⟨member, outermost⟩)
    · refine ⟨Or.inr (Or.inl rfl), ?_⟩
      rintro found (member | rfl | member) ⟨before, -⟩
      · have bounds := inside member
        omega
      · omega
      · have bounds := behind member
        omega
    · have bounds := behind member
      refine ⟨Or.inr (Or.inr member), ?_⟩
      rintro found (earlier | rfl | later)
      · have before := inside earlier
        omega
      · simp only
        omega
      · exact outermost found later

theorem codePair_held (after : List Node) (place : Nat) :
    CodePair ((opening :: (inner ++ closing :: after)).zipIdx position) place ↔
      CodePair (after.zipIdx (position + 1 + inner.length + 1)) place := by
  have outermost := outermost_held position starts passes other ends after
  constructor
  · rintro ⟨⟨node, member, isParagraph⟩, ⟨next, nextMember, isCode⟩, outside⟩
    have notEnclosed := (outside _ ((outermost _).mpr (Or.inl rfl))).1
    have behind : position + 1 + inner.length < place := by
      simp only [List.zipIdx_cons, List.zipIdx_append, List.mem_cons, List.mem_append,
        Prod.mk.injEq] at member
      rcases member with ⟨rfl, -⟩ | member | ⟨rfl, -⟩ | member
      · rw [(isMarker_other starts).1] at isParagraph
        contradiction
      · have lower := List.le_snd_of_mem_zipIdx member
        have upper := List.snd_lt_add_of_mem_zipIdx member
        exact absurd ⟨by simp only at *; omega, by simp only at *; omega⟩ notEnclosed
      · rw [(isMarker_other ends).1] at isParagraph
        contradiction
      · exact List.le_snd_of_mem_zipIdx member
    refine ⟨⟨node, ?_, isParagraph⟩, ⟨next, ?_, isCode⟩, ?_⟩
    · exact (mem_held_behind behind).mp member
    · exact (mem_held_behind (by omega)).mp nextMember
    · exact fun pair found => outside pair ((outermost pair).mpr (Or.inr found))
  · rintro ⟨⟨node, member, isParagraph⟩, ⟨next, nextMember, isCode⟩, outside⟩
    have behind : position + 1 + inner.length < place := List.le_snd_of_mem_zipIdx member
    refine ⟨⟨node, ?_, isParagraph⟩, ⟨next, ?_, isCode⟩, ?_⟩
    · exact (mem_held_behind behind).mpr member
    · exact (mem_held_behind (by omega)).mpr nextMember
    · intro pair found
      rcases (outermost pair).mp found with rfl | found
      · simp only [Encloses]
        omega
      · exact outside pair found

end Held

section Unheld

variable {node : Node} {nodes : List Node} {position : Nat}

theorem outermost_congr {first second : List (Node × Nat)}
    (same : markerPairs [] first = markerPairs [] second) (pair : Nat × Nat) :
    Outermost first pair ↔ Outermost second pair := by
  unfold Outermost
  rw [same]

theorem codePair_cons (same : markerPairs [] ((node :: nodes).zipIdx position) =
      markerPairs [] (nodes.zipIdx (position + 1))) (place : Nat) :
    CodePair ((node :: nodes).zipIdx position) place ↔
      (place = position ∧ node.isParagraph = true ∧
        ∃ code rest, nodes = code :: rest ∧ code.isCodeBlock = true) ∨
      CodePair (nodes.zipIdx (position + 1)) place := by
  have outermost := outermost_congr same
  constructor
  · rintro ⟨⟨paragraph, member, isParagraph⟩, ⟨code, codeMember, isCode⟩, outside⟩
    rw [List.zipIdx_cons, List.mem_cons, Prod.mk.injEq] at member codeMember
    have codeLater := codeMember.resolve_left
    rcases member with ⟨rfl, rfl⟩ | member
    · left
      have next := codeLater fun here => by omega
      rw [List.mk_mem_zipIdx_iff_le_and_getElem?_sub, Nat.sub_self] at next
      obtain ⟨rest, rfl⟩ : ∃ rest, nodes = code :: rest := by
        cases nodes with
        | nil => simp at next
        | cons first rest => exact ⟨rest, by simpa using next.2⟩
      exact ⟨rfl, isParagraph, code, rest, rfl, isCode⟩
    · right
      have lower := List.le_snd_of_mem_zipIdx member
      have next := codeLater fun here => by simp only at lower; omega
      exact ⟨⟨paragraph, member, isParagraph⟩, ⟨code, next, isCode⟩,
        fun pair found => outside pair ((outermost pair).mpr found)⟩
  · rintro (⟨rfl, isParagraph, code, rest, rfl, isCode⟩ | ⟨⟨paragraph, member, isParagraph⟩,
      ⟨code, codeMember, isCode⟩, outside⟩)
    · refine ⟨⟨node, by simp, isParagraph⟩, ⟨code, by simp, isCode⟩, ?_⟩
      intro pair found
      have bounds := markerPairs_bounds ((outermost pair).mp found).1
      simp only [List.not_mem_nil, false_or] at bounds
      simp only [Encloses]
      omega
    · exact ⟨⟨paragraph, .tail _ member, isParagraph⟩, ⟨code, .tail _ codeMember, isCode⟩,
        fun pair found => outside pair ((outermost pair).mp found)⟩

end Unheld

section Division

variable {pairCode : Bool} {position : Nat} {nodes : List Node} {groups : List Group}
  {spans : List Span}

theorem Divided.kept (divided : Divided pairCode position nodes groups spans) (span : Span) :
    span ∈ spans ↔ Kept pairCode (nodes.zipIdx position) span := by
  induction divided with
  | nil position =>
      simp only [List.not_mem_nil, false_iff, List.zipIdx_nil]
      rintro (⟨member, -⟩ | ⟨-, ⟨node, member, -⟩, -⟩)
      · exact List.not_mem_nil member
      · exact List.not_mem_nil member
  | @held position opening inner closing after groups spans starts passes other ends rest ih =>
      have outermost := outermost_held position starts passes other ends after
      have pairs := codePair_held position starts passes other ends after
      rw [List.mem_cons, ih]
      constructor
      · rintro (rfl | ⟨found⟩ | ⟨on, pair⟩)
        · exact .held ((outermost _).mpr (Or.inl rfl))
        · exact .held ((outermost _).mpr (Or.inr found))
        · exact .code on ((pairs _).mpr pair)
      · rintro (⟨found⟩ | ⟨on, pair⟩)
        · rcases (outermost _).mp found with here | later
          · obtain ⟨rfl, rfl⟩ := Prod.mk.inj here
            exact Or.inl rfl
          · exact Or.inr (.held later)
        · exact Or.inr (.code on ((pairs _).mp pair))
  | @code position paragraph code after groups spans on isParagraph isCode rest ih =>
      have plainCode := markerPairs_plain (position + 1) [] (after.zipIdx (position + 2))
        (isGroupMarker_codeBlock isCode)
      have plain := markerPairs_plain position [] ((code :: after).zipIdx (position + 1))
        (isGroupMarker_paragraph isParagraph)
      have outermost := outermost_congr (plain.trans plainCode)
      have pairs := codePair_cons plain
      have laterPairs := codePair_cons plainCode
      have noParagraph := isParagraph_of_codeBlock isCode
      rw [List.mem_cons, ih]
      constructor
      · rintro (rfl | ⟨found⟩ | ⟨-, pair⟩)
        · exact .code on ((pairs _).mpr (Or.inl ⟨rfl, isParagraph, code, after, rfl, isCode⟩))
        · exact .held ((outermost _).mpr found)
        · exact .code on ((pairs _).mpr (Or.inr ((laterPairs _).mpr (Or.inr pair))))
      · rintro (⟨found⟩ | ⟨-, pair⟩)
        · exact Or.inr (.held ((outermost _).mp found))
        · rcases (pairs _).mp pair with ⟨rfl, -⟩ | pair
          · exact Or.inl rfl
          · rcases (laterPairs _).mp pair with ⟨-, found, -⟩ | pair
            · rw [noParagraph] at found
              contradiction
            · exact Or.inr (.code on pair)
  | @single position node after groups spans opened alone rest ih =>
      have same : markerPairs [] ((node :: after).zipIdx position) =
          markerPairs [] (after.zipIdx (position + 1)) := by
        rcases marker_cases node with starts | ⟨other, ends⟩ | plain
        · obtain ⟨final, passes⟩ := opened starts
          exact markerPairs_unclosed [] position starts passes
        · exact markerPairs_strayEnd position _ other ends
        · exact markerPairs_plain position [] _ plain
      have outermost := outermost_congr same
      have pairs := codePair_cons same
      rw [ih]
      constructor
      · rintro (⟨found⟩ | ⟨on, pair⟩)
        · exact .held ((outermost _).mpr found)
        · exact .code on ((pairs _).mpr (Or.inr pair))
      · rintro (⟨found⟩ | ⟨on, pair⟩)
        · exact .held ((outermost _).mp found)
        · rcases (pairs _).mp pair with ⟨-, isParagraph, code, more, rfl, isCode⟩ | pair
          · rw [alone on isParagraph code more rfl] at isCode
            contradiction
          · exact .code on pair

theorem Divided.span_bounds (divided : Divided pairCode position nodes groups spans) {span : Span}
    (member : span ∈ spans) : position ≤ span.first ∧ span.first ≤ span.stop := by
  induction divided with
  | nil => simp at member
  | held starts passes other ends rest ih =>
      rcases List.mem_cons.mp member with rfl | later
      · simp only
        omega
      · have bounds := ih later
        omega
  | code pairs isParagraph isCode rest ih =>
      rcases List.mem_cons.mp member with rfl | later
      · simp only
        omega
      · have bounds := ih later
        omega
  | single opened alone rest ih =>
      have bounds := ih member
      omega

def Span.Before (earlier later : Span) : Prop :=
  earlier.first < later.first ∧ earlier.stop ≤ later.first

theorem Divided.ordered (divided : Divided pairCode position nodes groups spans) :
    spans.Pairwise Span.Before := by
  induction divided with
  | nil => exact .nil
  | held starts passes other ends rest ih =>
      refine .cons (fun span member => ?_) ih
      have bounds := rest.span_bounds member
      constructor <;> simp only <;> omega
  | code pairs isParagraph isCode rest ih =>
      refine .cons (fun span member => ?_) ih
      have bounds := rest.span_bounds member
      constructor <;> simp only <;> omega
  | single opened alone rest ih => exact ih

end Division

/-! The nodes and the texts of a span. -/

def Span.slice {Element : Type} (span : Span) (position : Nat) (list : List Element) :
    List Element :=
  (list.drop (span.first - position)).take (span.stop - span.first)

def wrapper (content : Text) : Text := "#block(breakable: false)[\n" ++ content ++ "]\n\n"

theorem wrap_wrapper (nodes : List Node) (content : Text) :
    Group.wrap ⟨true, nodes⟩ content = wrapper content := rfl

/-- The texts from `position` on, with a wrapper around those of each span. -/
def wrapSpans : (position : Nat) → List Span → List Text → Text
  | _, [], texts => texts.flatten
  | position, span :: spans, texts =>
      (texts.take (span.first - position)).flatten ++
        wrapper (span.slice position texts).flatten ++
          wrapSpans span.stop spans (texts.drop (span.stop - position))

theorem Span.slice_cons {Element : Type} {span : Span} {position : Nat}
    (behind : position < span.first) (element : Element) (list : List Element) :
    span.slice position (element :: list) = span.slice (position + 1) list := by
  have shift : span.first - position = span.first - (position + 1) + 1 := by omega
  rw [slice, slice, shift, List.drop_succ_cons]

theorem Span.slice_append {Element : Type} {span : Span} (before list : List Element)
    {position : Nat} (behind : position + before.length ≤ span.first) :
    span.slice position (before ++ list) = span.slice (position + before.length) list := by
  induction before generalizing position with
  | nil => rfl
  | cons element before ih =>
      rw [List.length_cons] at behind
      rw [List.cons_append, slice_cons (by omega), ih (by omega), List.length_cons]
      congr 1
      omega

theorem wrapSpans_cons {position : Nat} {spans : List Span}
    (behind : ∀ span ∈ spans, position < span.first ∧ span.first ≤ span.stop) (text : Text)
    (texts : List Text) :
    wrapSpans position spans (text :: texts) = text ++ wrapSpans (position + 1) spans texts := by
  cases spans with
  | nil => rfl
  | cons span spans =>
      have bounds := behind span (.head _)
      have first : span.first - position = span.first - (position + 1) + 1 := by omega
      have stop : span.stop - position = span.stop - (position + 1) + 1 := by omega
      rw [wrapSpans, wrapSpans, Span.slice_cons bounds.1, first, stop, List.take_succ_cons,
        List.drop_succ_cons, List.flatten_cons]
      simp only [List.append_assoc]

theorem wrapSpans_held (position : Nat) (inner texts : List Text) (spans : List Span)
    (behind : ∀ span ∈ spans,
      position + 1 + inner.length < span.first ∧ span.first ≤ span.stop) :
    wrapSpans position (⟨position + 1, position + 1 + inner.length⟩ :: spans)
        ([] :: (inner ++ [] :: texts)) =
      wrapper inner.flatten ++ wrapSpans (position + 1 + inner.length + 1) spans texts := by
  have first : position + 1 - position = 1 := by omega
  have size : position + 1 + inner.length - (position + 1) = inner.length := by omega
  have stop : position + 1 + inner.length - position = inner.length + 1 := by omega
  have slice : Span.slice ⟨position + 1, position + 1 + inner.length⟩ position
      ([] :: (inner ++ [] :: texts)) = inner := by
    rw [Span.slice, first, size, List.drop_succ_cons, List.drop_zero, List.take_left]
  rw [wrapSpans, slice, first, stop, List.drop_succ_cons, List.drop_left, wrapSpans_cons behind]
  rfl

section Division

variable {setting : Setting} {titleMode pairCode : Bool} {position : Nat} {nodes : List Node}
  {groups : List Group} {spans : List Span}

theorem Divided.slices (divided : Divided pairCode position nodes groups spans) :
    (groups.filter (·.wrapped)).map (·.nodes) = spans.map (·.slice position nodes) := by
  induction divided with
  | nil => rfl
  | @held position opening inner closing after groups spans starts passes other ends rest ih =>
      rw [List.filter_cons_of_pos rfl, List.map_cons, List.map_cons, ih]
      congr 1
      · simp [Span.slice]
      · refine List.map_congr_left fun span member => ?_
        have bounds := rest.span_bounds member
        rw [Span.slice_cons (by omega), Span.slice_append _ _ (by omega),
          Span.slice_cons (by omega)]
  | @code position paragraph code after groups spans pairs isParagraph isCode rest ih =>
      rw [List.filter_cons_of_pos rfl, List.map_cons, List.map_cons, ih]
      congr 1
      · simp [Span.slice]
      · refine List.map_congr_left fun span member => ?_
        have bounds := rest.span_bounds member
        rw [Span.slice_cons (by omega), Span.slice_cons (by omega)]
  | @single position node after groups spans opened alone rest ih =>
      rw [List.filter_cons_of_neg (by simp), ih]
      refine List.map_congr_left fun span member => ?_
      have bounds := rest.span_bounds member
      rw [Span.slice_cons (by omega)]

theorem Divided.markup (divided : Divided pairCode position nodes groups spans)
    (progress : Progress) :
    (groupsMarkup setting titleMode groups progress).1 =
      wrapSpans position spans (blockTexts setting titleMode nodes progress) := by
  induction divided generalizing progress with
  | nil => rfl
  | @held position opening inner closing after groups spans starts passes other ends rest ih =>
      have behind (span : Span) (member : span ∈ spans) := rest.span_bounds member
      have held := wrapSpans_held position (blockTexts setting titleMode inner progress)
        (blockTexts setting titleMode after (progressAfter setting titleMode inner progress)) spans
      rw [length_blockTexts] at held
      rw [groupsMarkup_cons, ih, blockTexts_held starts ends, held behind, wrap_wrapper]
  | @code position paragraph code after groups spans pairs isParagraph isCode rest ih =>
      have first : position - position = 0 := by omega
      have size : position + 2 - position = 2 := by omega
      rw [groupsMarkup_cons, ih, wrap_wrapper]
      simp only [blockTexts, wrapSpans, Span.slice, first, size, List.take_succ_cons,
        List.take_zero, List.drop_succ_cons, List.drop_zero]
      rfl
  | @single position node after groups spans opened alone rest ih =>
      have behind (span : Span) (member : span ∈ spans) := rest.span_bounds member
      have texts := wrapSpans_cons behind (block setting titleMode node progress).1
        (blockTexts setting titleMode after (block setting titleMode node progress).2)
      rw [groupsMarkup_cons, ih]
      simp only [blockTexts, texts]
      simp [Group.wrap, progressAfter]

end Division

/-- What a document keeps together. Its wrappers, in order, are those of the kept spans; each holds
the nodes of its span and stands around their texts. A search from a start marker finds the partner
of the marker, if it has one, and never counts below one before it is there. -/
theorem body_wrappers (setting : Setting) (titleMode : Bool) (nodes : List Node)
    (progress : Progress) :
    (∃ spans : List Span,
      (∀ span, span ∈ spans ↔
        Kept setting.style.keepCodeWithPrevious (topLevel nodes).zipIdx span) ∧
      spans.Pairwise Span.Before ∧
      ((groups setting.style.keepCodeWithPrevious (topLevel nodes)).filter (·.wrapped)).map
          (·.nodes) = spans.map (·.slice 0 (topLevel nodes)) ∧
      (body setting titleMode nodes progress).1 =
        wrapSpans 0 spans (blockTexts setting titleMode (topLevel nodes) progress)) ∧
    ∀ start node, (topLevel nodes)[start]? = some node →
      node.isMarker keepTogetherStart = true →
        (∀ stop, closing? (topLevel nodes) start = some stop ↔
          (start, stop) ∈ markerPairs [] (topLevel nodes).zipIdx) ∧
        ∀ passed, passed <+: searched (topLevel nodes) start → 0 < openCount passed := by
  constructor
  · obtain ⟨spans, divided⟩ := groups_divided setting.style.keepCodeWithPrevious 0 (topLevel nodes)
    exact ⟨spans, divided.kept, divided.ordered, divided.slices, divided.markup progress⟩
  · intro start node here starts
    exact ⟨fun stop => closing?_eq_some_iff here starts, fun passed before => openCount_pos before⟩

theorem body_wrappers_secondStart :
    let inner : Node := .paragraph [.text "held"]
    let nodes : List Node := [.frontMatter "title: Text", .raw "<!-- keep-together -->",
      .raw "<!-- keep-together -->", inner, .raw "<!-- /keep-together -->", inner,
      .codeBlock none "alone"]
    closing? (topLevel nodes) 1 = some 3 ∧ (1, 3) ∈ markerPairs [] (topLevel nodes).zipIdx ∧
      0 < openCount [inner] ∧
      (body {} false nodes {}).1 =
        "#block(breakable: false)[\nheld\n\n]\n\n" ++
          "#block(breakable: false)[\nheld\n\n```\nalone\n```\n\n]\n\n".toList := by
  intro inner nodes
  have found : closing? (topLevel nodes) 1 = some 3 := rfl
  have search := (body_wrappers {} false nodes {}).2 1 _ rfl rfl
  refine ⟨found, (search.1 3).mp found, search.2 [inner] (List.prefix_refl _), ?_⟩
  decide +kernel

end Compositor.Markup

import Compositor.Proofs.Markup.Block

/-! The division of the top level into groups, with the places of the nodes that stand in wrappers.
Every group is one of three: what a pair of markers holds, a paragraph with its code, or a single
node. What is said of the body of a document follows by induction on its division. -/

namespace Compositor.Markup

structure Span where
  first : Nat
  stop : Nat
  deriving DecidableEq

/-- Passing over the nodes leads from `depth` open start markers to `final`, and an end marker is
met only where one of them is open. -/
inductive Passes : (depth : Nat) → List Node → (final : Nat) → Prop
  | nil (depth) : Passes depth [] depth
  | start {depth node nodes final} (starts : node.isMarker keepTogetherStart = true)
      (rest : Passes (depth + 1) nodes final) : Passes depth (node :: nodes) final
  | stop {depth node nodes final} (other : node.isMarker keepTogetherStart = false)
      (ends : node.isMarker keepTogetherEnd = true) (rest : Passes depth nodes final) :
      Passes (depth + 1) (node :: nodes) final
  | plain {depth node nodes final} (other : isGroupMarker node = false)
      (rest : Passes depth nodes final) : Passes depth (node :: nodes) final

theorem splitAtEnd?_some {depth : Nat} {nodes inner after : List Node}
    (found : splitAtEnd? depth nodes = some (inner, after)) :
    Passes depth inner 0 ∧ ∃ closing, nodes = inner ++ closing :: after ∧
      closing.isMarker keepTogetherStart = false ∧ closing.isMarker keepTogetherEnd = true := by
  fun_induction splitAtEnd? depth nodes generalizing inner with
  | case1 => simp at found
  | case2 depth node nodes starts ih =>
      simp only [Option.map_eq_some_iff, Prod.mk.injEq, Prod.exists] at found
      obtain ⟨rest, _, found, rfl, rfl⟩ := found
      obtain ⟨passes, closing, rfl, closes⟩ := ih found
      exact ⟨.start starts passes, closing, rfl, closes⟩
  | case3 node nodes other ends =>
      simp only [Option.some.injEq, Prod.mk.injEq] at found
      obtain ⟨rfl, rfl⟩ := found
      exact ⟨.nil 0, node, rfl, by simpa using other, ends⟩
  | case4 node nodes other ends depth ih =>
      simp only [Option.map_eq_some_iff, Prod.mk.injEq, Prod.exists] at found
      obtain ⟨rest, _, found, rfl, rfl⟩ := found
      obtain ⟨passes, closing, rfl, closes⟩ := ih found
      exact ⟨.stop (by simpa using other) ends passes, closing, rfl, closes⟩
  | case5 depth node nodes notStart notEnd ih =>
      simp only [Option.map_eq_some_iff, Prod.mk.injEq, Prod.exists] at found
      obtain ⟨rest, _, found, rfl, rfl⟩ := found
      obtain ⟨passes, closing, rfl, closes⟩ := ih found
      exact ⟨.plain (by simp [isGroupMarker, notStart, notEnd]) passes, closing, rfl, closes⟩

theorem splitAtEnd?_none {depth : Nat} {nodes : List Node}
    (missing : splitAtEnd? depth nodes = none) : ∃ final, Passes depth nodes final := by
  fun_induction splitAtEnd? depth nodes with
  | case1 depth => exact ⟨depth, .nil depth⟩
  | case2 depth node nodes starts ih =>
      obtain ⟨final, passes⟩ := ih (by simpa using missing)
      exact ⟨final, .start starts passes⟩
  | case3 => simp at missing
  | case4 node nodes other ends depth ih =>
      obtain ⟨final, passes⟩ := ih (by simpa using missing)
      exact ⟨final, .stop (by simpa using other) ends passes⟩
  | case5 depth node nodes notStart notEnd ih =>
      obtain ⟨final, passes⟩ := ih (by simpa using missing)
      exact ⟨final, .plain (by simp [isGroupMarker, notStart, notEnd]) passes⟩

/-- The nodes from `position` on, divided into groups; the spans are the places of what stands in
wrappers. -/
inductive Divided (pairCode : Bool) : (position : Nat) → List Node → List Group → List Span → Prop
  | nil (position) : Divided pairCode position [] [] []
  | held {position opening inner closing after groups spans}
      (starts : opening.isMarker keepTogetherStart = true) (passes : Passes 0 inner 0)
      (other : closing.isMarker keepTogetherStart = false)
      (ends : closing.isMarker keepTogetherEnd = true)
      (rest : Divided pairCode (position + 1 + inner.length + 1) after groups spans) :
      Divided pairCode position (opening :: (inner ++ closing :: after)) (⟨true, inner⟩ :: groups)
        (⟨position + 1, position + 1 + inner.length⟩ :: spans)
  | code {position paragraph code after groups spans} (pairs : pairCode = true)
      (isParagraph : paragraph.isParagraph = true) (isCode : code.isCodeBlock = true)
      (rest : Divided pairCode (position + 2) after groups spans) :
      Divided pairCode position (paragraph :: code :: after) (⟨true, [paragraph, code]⟩ :: groups)
        (⟨position, position + 2⟩ :: spans)
  | single {position node after groups spans}
      (opened : node.isMarker keepTogetherStart = true → ∃ final, Passes 0 after final)
      (alone : pairCode = true → node.isParagraph = true → ∀ code rest, after = code :: rest →
        code.isCodeBlock = false)
      (rest : Divided pairCode (position + 1) after groups spans) :
      Divided pairCode position (node :: after) (⟨false, [node]⟩ :: groups) spans

def heldBy? (node : Node) (nodes : List Node) : Option (List Node × List Node) :=
  if node.isMarker keepTogetherStart then splitAtEnd? 0 nodes else none

theorem groups_held {node : Node} {nodes inner after : List Node} (pairCode : Bool)
    (found : heldBy? node nodes = some (inner, after)) :
    groups pairCode (node :: nodes) = ⟨true, inner⟩ :: groups pairCode after := by
  rw [groups]
  split
  next again =>
    obtain ⟨rfl, rfl⟩ := Prod.mk.inj (Option.some.inj (again.symm.trans found))
    rfl
  next missing => cases missing.symm.trans found

theorem groups_loose {node : Node} {nodes : List Node} (pairCode : Bool)
    (missing : heldBy? node nodes = none) :
    groups pairCode (node :: nodes) = match nodes with
      | [] => [⟨false, [node]⟩]
      | next :: rest =>
          if pairCode && node.isParagraph && next.isCodeBlock then
            ⟨true, [node, next]⟩ :: groups pairCode rest
          else ⟨false, [node]⟩ :: groups pairCode (next :: rest) := by
  rw [groups.eq_def]
  simp only
  split
  next found => cases found.symm.trans missing
  next => rfl

theorem groups_divided (pairCode : Bool) (position : Nat) (nodes : List Node) :
    ∃ spans, Divided pairCode position nodes (groups pairCode nodes) spans := by
  fun_induction groups pairCode nodes generalizing position with
  | case1 => exact ⟨[], .nil position⟩
  | case2 node nodes inner after found ih =>
      by_cases starts : node.isMarker keepTogetherStart = true
      · rw [dif_pos starts] at found
        obtain ⟨passes, closing, rfl, other, ends⟩ := splitAtEnd?_some found
        obtain ⟨spans, rest⟩ := ih (position + 1 + inner.length + 1)
        exact ⟨_, .held starts passes other ends rest⟩
      · simp [starts] at found
  | case3 node missing =>
      exact ⟨[], .single (fun _ => ⟨0, .nil 0⟩) (by simp) (.nil _)⟩
  | case4 node next rest missing pair ih =>
      simp only [Bool.and_eq_true] at pair
      obtain ⟨spans, divided⟩ := ih (position + 2)
      exact ⟨_, .code pair.1.1 pair.1.2 pair.2 divided⟩
  | case5 node next rest missing noPair ih =>
      obtain ⟨spans, divided⟩ := ih (position + 1)
      refine ⟨spans, .single ?_ ?_ divided⟩
      · intro starts
        rw [if_pos starts] at missing
        exact splitAtEnd?_none missing
      · rintro pairs isParagraph code rest' same
        obtain ⟨rfl, rfl⟩ := List.cons.inj same
        simpa [pairs, isParagraph] using noPair

def topLevel (nodes : List Node) : List Node := nodes.filter (! ·.isFrontMatter)

variable (setting : Setting) (titleMode : Bool)

theorem body_divided (nodes : List Node) (progress : Progress) :
    ∃ groups spans, Divided setting.style.keepCodeWithPrevious 0 (topLevel nodes) groups spans ∧
      body setting titleMode nodes progress = groupsMarkup setting titleMode groups progress := by
  obtain ⟨spans, divided⟩ := groups_divided setting.style.keepCodeWithPrevious 0 (topLevel nodes)
  exact ⟨_, spans, divided, rfl⟩

theorem groupsMarkup_cons (group : Group) (groups : List Group) (progress : Progress) :
    groupsMarkup setting titleMode (group :: groups) progress =
      (group.wrap (blockTexts setting titleMode group.nodes progress).flatten ++
          (groupsMarkup setting titleMode groups
            (progressAfter setting titleMode group.nodes progress)).1,
        (groupsMarkup setting titleMode groups
          (progressAfter setting titleMode group.nodes progress)).2) := by
  simp only [groupsMarkup, Group.markup, blocks_eq]

variable {setting titleMode}

theorem blockTexts_held {opening closing : Node} {inner after : List Node}
    (starts : opening.isMarker keepTogetherStart = true)
    (ends : closing.isMarker keepTogetherEnd = true) (progress : Progress) :
    blockTexts setting titleMode (opening :: (inner ++ closing :: after)) progress =
      [] :: (blockTexts setting titleMode inner progress ++
        [] :: blockTexts setting titleMode after
          (progressAfter setting titleMode inner progress)) := by
  rw [blockTexts_groupMarker _ _ (isGroupMarker_start starts), blockTexts_append,
    blockTexts_groupMarker _ _ (isGroupMarker_end ends)]

theorem progressAfter_held {opening closing : Node} {inner after : List Node}
    (starts : opening.isMarker keepTogetherStart = true)
    (ends : closing.isMarker keepTogetherEnd = true) (progress : Progress) :
    progressAfter setting titleMode (opening :: (inner ++ closing :: after)) progress =
      progressAfter setting titleMode after (progressAfter setting titleMode inner progress) := by
  rw [progressAfter_groupMarker _ _ (isGroupMarker_start starts), progressAfter_append,
    progressAfter_groupMarker _ _ (isGroupMarker_end ends)]

theorem Divided.progress {pairCode : Bool} {position : Nat} {nodes : List Node}
    {groups : List Group} {spans : List Span}
    (divided : Divided pairCode position nodes groups spans)
    (progress : Progress) :
    (groupsMarkup setting titleMode groups progress).2 =
      progressAfter setting titleMode nodes progress := by
  induction divided generalizing progress with
  | nil => rfl
  | held starts passes other ends rest ih =>
      rw [groupsMarkup_cons, ih, progressAfter_held starts ends]
  | code pairs isParagraph isCode rest ih =>
      rw [groupsMarkup_cons, ih]
      rfl
  | single opened alone rest ih =>
      rw [groupsMarkup_cons, ih]
      rfl

theorem Divided.unmarked {pairCode : Bool} {position : Nat} {nodes : List Node}
    {groups : List Group} {spans : List Span}
    (divided : Divided pairCode position nodes groups spans) :
    (groups.flatMap (·.nodes)).filter (! isGroupMarker ·) = nodes.filter (! isGroupMarker ·) := by
  induction divided with
  | nil => rfl
  | held starts passes other ends rest ih =>
      rw [List.flatMap_cons, List.filter_append, ih,
        List.filter_cons_of_neg (by simp [isGroupMarker_start starts]), List.filter_append,
        List.filter_cons_of_neg (by simp [isGroupMarker_end ends])]
  | @code position paragraph code after groups spans pairs isParagraph isCode rest ih =>
      rw [List.flatMap_cons, List.filter_append, ih, ← List.filter_append]
      rfl
  | @single position node after groups spans opened alone rest ih =>
      rw [List.flatMap_cons, List.filter_append, ih, ← List.filter_append]
      rfl

theorem Divided.sublist {pairCode : Bool} {position : Nat} {nodes : List Node}
    {groups : List Group} {spans : List Span}
    (divided : Divided pairCode position nodes groups spans) :
    (groups.flatMap (·.nodes)).Sublist nodes := by
  induction divided with
  | nil => exact .slnil
  | held starts passes other ends rest ih =>
      exact .cons _ ((List.Sublist.refl _).append (.cons _ ih))
  | code pairs isParagraph isCode rest ih => exact ((List.Sublist.refl _).append ih)
  | single opened alone rest ih => exact ((List.Sublist.refl _).append ih)

end Compositor.Markup

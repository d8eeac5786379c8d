import Compositor.Proofs.Markup.Reached

/-! The flag of a translation. Its progress says whether a heading was reached last, among the
blocks that count; a heading starts a page only where none was. -/

namespace Compositor.Markup

def isHeading : Node → Bool
  | .heading _ _ => true
  | _ => false

def endsRun : Node → Bool
  | .paragraph _ | .codeBlock _ _ | .list _ _ | .blockQuote _ | .table _ | .thematicBreak
  | .blockMath _ => true
  | _ => false

theorem exists_heading {node : Node} (heading : isHeading node = true) :
    ∃ depth children, node = .heading depth children := by
  cases node with
  | heading depth children => exact ⟨depth, children, rfl⟩
  | _ => cases heading

def counts (node : Node) : Bool := isHeading node || endsRun node

/-- Whether a heading was reached last, given whether one was before these nodes. -/
def headingLast (before : Bool) (nodes : List Node) : Bool :=
  ((nodes.filter counts).getLast?.map isHeading).getD before

theorem headingLast_cons (before : Bool) (node : Node) (nodes : List Node) :
    headingLast before (node :: nodes) = headingLast (headingLast before [node]) nodes := by
  unfold headingLast
  cases counted : counts node with
  | true =>
      rw [List.filter_cons_of_pos counted, List.filter_cons_of_pos counted, List.getLast?_cons]
      cases (nodes.filter counts).getLast? <;> rfl
  | false =>
      rw [List.filter_cons_of_neg (by simp [counted]), List.filter_cons_of_neg (by simp [counted])]
      rfl

theorem headingLast_append (before : Bool) (first second : List Node) :
    headingLast before (first ++ second) = headingLast (headingLast before first) second := by
  induction first generalizing before with
  | nil => rfl
  | cons node nodes ih => rw [List.cons_append, headingLast_cons, ih, ← headingLast_cons]

theorem headingLast_uncounted {node : Node} (other : counts node = false) (before : Bool) :
    headingLast before [node] = before := by
  rw [headingLast, List.filter_cons_of_neg (by simp [other])]
  rfl

theorem headingLast_counted {node : Node} (counted : counts node = true) (before : Bool) :
    headingLast before [node] = isHeading node := by
  rw [headingLast, List.filter_cons_of_pos counted]
  rfl

section Follows

variable (setting : Setting) (titleMode : Bool)

/-- Each visit sets its node by the progress before it, and this progress knows whether a heading
was reached last. -/
inductive Follows : (before : Bool) → List Visit → (after : Bool) → Prop
  | nil (before) : Follows before [] before
  | visit (visit) {visits after}
      (set : visit.markup = (block setting titleMode visit.node visit.before).1)
      (rest : Follows (headingLast visit.before.previousWasHeading [visit.node]) visits after) :
      Follows visit.before.previousWasHeading (visit :: visits) after

variable {setting titleMode} {before middle after : Bool} {visits : List Visit}

theorem Follows.append {first second : List Visit}
    (earlier : Follows setting titleMode before first middle)
    (later : Follows setting titleMode middle second after) :
    Follows setting titleMode before (first ++ second) after := by
  induction earlier with
  | nil => exact later
  | visit visit set rest ih => exact .visit visit set (ih later)

theorem codeBlock_flag (language : Option Text) (code : Text) (progress : Progress) :
    (codeBlock setting language code progress).2.previousWasHeading =
      progress.previousWasHeading := by
  unfold codeBlock
  split
  · split <;> rfl
  · rfl

theorem leaf_flag {node : Node} (leaf : isContainer node = false) (progress : Progress) :
    (block setting titleMode node progress).2.previousWasHeading =
      headingLast progress.previousWasHeading [node] := by
  cases node with
  | codeBlock language code => exact codeBlock_flag language code progress.cleared
  | list | listItem | blockQuote => cases leaf
  | _ => rfl

theorem walk_follows :
    WalkInvariant setting titleMode fun _ start visits final =>
      Follows setting titleMode start.previousWasHeading visits final.previousWasHeading where
  nil progress := .nil _
  append := Follows.append
  leaf node progress isLeaf := by
    rw [leaf_flag isLeaf]
    exact .visit ⟨node, progress, _⟩ rfl (.nil _)
  enter node progress visits final container rest := by
    refine .visit ⟨node, progress, _⟩ rfl ?_
    cases node with
    | list | listItem | blockQuote => exact rest
    | _ => cases container
  itemParagraph children progress := .nil _
  itemList ordered items progress visits final rest := rest

theorem Follows.final (follows : Follows setting titleMode before visits after) :
    after = headingLast before (visits.map (·.node)) := by
  induction follows with
  | nil before => rfl
  | visit visit set rest ih => rw [ih, List.map_cons, ← headingLast_cons]

theorem Follows.counted (follows : Follows setting titleMode before visits after) :
    Follows setting titleMode before (visits.filter (counts ·.node)) after := by
  induction follows with
  | nil before => exact .nil before
  | visit visit set rest ih =>
      cases counted : counts visit.node with
      | true =>
          rw [List.filter_cons_of_pos (by exact counted)]
          exact .visit visit set ih
      | false =>
          rw [List.filter_cons_of_neg (by simp [counted])]
          rwa [headingLast_uncounted counted] at ih

theorem Follows.at {earlier later : List Visit} {visit : Visit}
    (follows : Follows setting titleMode before (earlier ++ visit :: later) after) :
    visit.before.previousWasHeading = headingLast before (earlier.map (·.node)) ∧
      visit.markup = (block setting titleMode visit.node visit.before).1 := by
  induction earlier generalizing before with
  | nil =>
      cases follows with
      | visit _ set rest => exact ⟨rfl, set⟩
  | cons first earlier ih =>
      cases follows with
      | visit _ set rest =>
          rw [List.map_cons, headingLast_cons]
          exact ih rest

end Follows

/-! Page breaks. -/

section Breaks

variable (setting : Setting) (titleMode : Bool)

def StartsPage (markup : Text) : Prop := ("#pagebreak(weak: true)\n" : Text) <+: markup

instance (markup : Text) : Decidable (StartsPage markup) :=
  inferInstanceAs (Decidable (("#pagebreak(weak: true)\n" : Text) <+: markup))

theorem headingLine_startsNoPage (depth : UInt8) (content : Text) :
    ¬StartsPage (headingLine titleMode depth content) := by
  unfold headingLine
  split
  · rintro ⟨rest, same⟩
    simp at same
  · cases depth.toNat with
    | zero =>
        rintro ⟨rest, same⟩
        simp at same
    | succ count =>
        rintro ⟨rest, same⟩
        simp [List.replicate_succ] at same

theorem breaksPage_iff (style : DocumentStyle) (progress : Progress) (depth : UInt8) :
    breaksPage style progress depth = true ↔
      ∃ level, style.pageBreakLevel = some level ∧ depth ≤ level ∧
        progress.previousWasHeading = false := by
  unfold breaksPage
  cases style.pageBreakLevel with
  | none => simp
  | some level => simp

theorem heading_startsPage_iff (depth : UInt8) (children : List Node) (progress : Progress) :
    StartsPage (block setting titleMode (.heading depth children) progress).1 ↔
      ∃ level, setting.style.pageBreakLevel = some level ∧ depth ≤ level ∧
        progress.previousWasHeading = false := by
  rw [← breaksPage_iff]
  change StartsPage (pageBreak (breaksPage setting.style progress depth) ++ _) ↔ _
  cases breaks : breaksPage setting.style progress depth with
  | true => exact iff_of_true ⟨_, rfl⟩ rfl
  | false => exact iff_of_false (headingLine_startsNoPage titleMode depth _) Bool.false_ne_true

variable {setting titleMode}

theorem Follows.breaks {earlier later : List Visit} {visit : Visit} {before after : Bool}
    {depth : UInt8} {children : List Node}
    (follows : Follows setting titleMode before (earlier ++ visit :: later) after)
    (heading : visit.node = .heading depth children) :
    StartsPage visit.markup ↔ ∃ level, setting.style.pageBreakLevel = some level ∧
      depth ≤ level ∧ headingLast before (earlier.map (·.node)) = false := by
  obtain ⟨flag, set⟩ := follows.at
  rw [set, heading, heading_startsPage_iff, flag]

end Breaks

end Compositor.Markup

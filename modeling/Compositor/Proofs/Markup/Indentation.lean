import Compositor.Markup.Body
import Compositor.Proofs.Text.Squeeze

/-! What the trimming and the indentation of a list item leave alone: pieces of a single line that
neither start nor end with white space. -/

namespace Compositor

open Text

structure Text.Solid (piece : Text) : Prop where
  front : ∃ first rest, piece = first :: rest ∧ isBlank first = false
  back : ∃ before last, piece = before ++ [last] ∧ isBlank last = false
  oneLine : '\n' ∉ piece

namespace Text

theorem solid_iff {piece : Text} : Solid piece ↔
    piece.head?.any (! isBlank ·) = true ∧ piece.getLast?.any (! isBlank ·) = true ∧
      '\n' ∉ piece := by
  simp only [Option.any_eq_true, Bool.not_eq_true', List.head?_eq_some_iff,
    List.getLast?_eq_some_iff]
  constructor
  · rintro ⟨⟨first, rest, front, notBlank⟩, ⟨before, last, back, lastNotBlank⟩, oneLine⟩
    exact ⟨⟨first, ⟨rest, front⟩, notBlank⟩, ⟨last, ⟨before, back⟩, lastNotBlank⟩, oneLine⟩
  · rintro ⟨⟨first, ⟨rest, front⟩, notBlank⟩, ⟨last, ⟨before, back⟩, lastNotBlank⟩, oneLine⟩
    exact ⟨⟨first, rest, front, notBlank⟩, ⟨before, last, back, lastNotBlank⟩, oneLine⟩

instance (piece : Text) : Decidable (Solid piece) := decidable_of_iff _ solid_iff.symm

theorem Solid.trimStart {piece : Text} (solid : Solid piece) (before after : Text) :
    ∃ left, trimStart (before ++ piece ++ after) = left ++ piece ++ after := by
  obtain ⟨first, rest, rfl, notBlank⟩ := solid.front
  induction before with
  | nil =>
      refine ⟨[], ?_⟩
      exact List.dropWhile_cons_of_neg (by simp [notBlank])
  | cons character before ih =>
      cases blank : isBlank character with
      | true =>
          obtain ⟨left, trimmed⟩ := ih
          refine ⟨left, ?_⟩
          rw [← trimmed]
          exact List.dropWhile_cons_of_pos blank
      | false =>
          refine ⟨character :: before, ?_⟩
          exact List.dropWhile_cons_of_neg (by simp [blank])

theorem Solid.trimEnd {piece : Text} (solid : Solid piece) (before after : Text) :
    trimEnd (before ++ piece ++ after) = before ++ piece ++ trimEnd after := by
  obtain ⟨inner, last, rfl, notBlank⟩ := solid.back
  unfold Text.trimEnd
  rw [List.reverse_append, List.dropWhile_append]
  split
  next none =>
    have empty : after.reverse.dropWhile isBlank = [] := by simpa using none
    rw [empty]
    simp [List.dropWhile_cons_of_neg, notBlank]
  next => simp

theorem OccursInOrder.trimEnd {pieces : List Text} {text : Text}
    (solid : ∀ piece ∈ pieces, Solid piece) (occurs : OccursInOrder pieces text) :
    OccursInOrder pieces (trimEnd text) := by
  induction pieces generalizing text with
  | nil => trivial
  | cons piece pieces ih =>
      obtain ⟨before, after, rfl, rest⟩ := occurs
      rw [(solid piece (.head _)).trimEnd]
      have trimmed := ih (fun later member => solid later (.tail _ member)) rest
      exact ⟨before, Text.trimEnd after, rfl, trimmed⟩

theorem OccursInOrder.trim {pieces : List Text} {text : Text}
    (solid : ∀ piece ∈ pieces, Solid piece) (occurs : OccursInOrder pieces text) :
    OccursInOrder pieces (trim text) := by
  refine OccursInOrder.trimEnd solid ?_
  cases pieces with
  | nil => trivial
  | cons piece pieces =>
      obtain ⟨before, after, rfl, rest⟩ := occurs
      obtain ⟨left, trimmed⟩ := (solid piece (.head _)).trimStart before after
      exact ⟨left, after, trimmed, rest⟩

end Text

namespace Markup

theorem indentRest_cons {character : Char} {text : Text} (notFeed : character ≠ '\n')
    (notReturn : character = '\r' → text.head? ≠ some '\n') :
    indentRest (character :: text) = character :: indentRest text := by
  have lines : Text.lines (character :: text) =
      (character :: (Text.lines text).headD []) :: (Text.lines text).tail := by
    rw [Text.lines]
    · cases Text.lines text <;> rfl
    · exact notFeed
    · rintro rest isReturn rfl
      exact notReturn isReturn rfl
  rw [indentRest, indentRest, lines]
  cases Text.lines text <;> rfl

theorem indentRest_feed (text : Text) :
    ∃ left, indentRest ('\n' :: text) = left ++ indentRest text := by
  have lines : lines ('\n' :: text) = [] :: lines text := by rw [Text.lines]
  rw [indentRest, indentRest, lines]
  cases Text.lines text with
  | nil => exact ⟨[], rfl⟩
  | cons line more =>
      cases line with
      | nil => exact ⟨['\n'], rfl⟩
      | cons first line => exact ⟨['\n', ' ', ' '], rfl⟩

theorem indentRest_suffix (before text : Text) :
    ∃ left, indentRest (before ++ text) = left ++ indentRest text := by
  induction before with
  | nil => exact ⟨[], rfl⟩
  | cons character before ih =>
      obtain ⟨left, indented⟩ := ih
      rw [List.cons_append]
      by_cases feed : character = '\n'
      · subst feed
        obtain ⟨pad, padded⟩ := indentRest_feed (before ++ text)
        refine ⟨pad ++ left, ?_⟩
        rw [padded, indented, List.append_assoc]
      by_cases isReturn : character = '\r' ∧ (before ++ text).head? = some '\n'
      · obtain ⟨rfl, head⟩ := isReturn
        obtain ⟨rest, shape⟩ := List.head?_eq_some_iff.mp head
        refine ⟨left, ?_⟩
        rw [← indented, shape, indentRest, indentRest, Text.lines, Text.lines]
      · refine ⟨character :: left, ?_⟩
        rw [indentRest_cons feed fun same next => isReturn ⟨same, next⟩, indented]
        rfl

theorem indentRest_solid {piece : Text} (solid : Solid piece) (text : Text) :
    indentRest (piece ++ text) = piece ++ indentRest text := by
  obtain ⟨inner, last, rfl, notBlank⟩ := solid.back
  have oneLine := solid.oneLine
  clear solid
  induction inner with
  | nil =>
      refine indentRest_cons (fun same => oneLine (by simp [same])) ?_
      rintro rfl
      cases notBlank
  | cons character inner ih =>
      rw [List.mem_append, List.mem_cons, not_or, not_or] at oneLine
      have rest := ih (by simp [oneLine])
      change indentRest (character :: (inner ++ [last] ++ text)) =
        character :: (inner ++ [last] ++ indentRest text)
      rw [← rest]
      refine indentRest_cons (Ne.symm oneLine.1.1) ?_
      -- The character behind a carriage return is one of the piece.
      intro _ next
      cases inner with
      | nil => simp_all
      | cons other inner => simp_all

theorem occursInOrder_indentRest {pieces : List Text} {text : Text}
    (solid : ∀ piece ∈ pieces, Solid piece) (occurs : OccursInOrder pieces text) :
    OccursInOrder pieces (indentRest text) := by
  induction pieces generalizing text with
  | nil => trivial
  | cons piece pieces ih =>
      obtain ⟨before, after, rfl, rest⟩ := occurs
      obtain ⟨left, indented⟩ := indentRest_suffix before (piece ++ after)
      rw [indentRest_solid (solid piece (.head _)), ← List.append_assoc left] at indented
      rw [List.append_assoc, indented]
      have below := ih (fun later member => solid later (.tail _ member)) rest
      exact ⟨left, indentRest after, rfl, below⟩

end Markup
end Compositor

import Compositor.Text.Basic

/-! The pieces of a text between separators. -/

namespace Compositor.Text

theorem split_eq_splitOnP (separator : Char → Bool) (text : Text) :
    split separator text = text.splitOnP separator := by
  induction text with
  | nil => rfl
  | cons character text ih =>
      rw [split, List.splitOnP_cons_eq_if_modifyHead, ih]
      cases pieces : text.splitOnP separator with
      | nil => exact absurd pieces (List.splitOnP_ne_nil separator text)
      | cons piece more => cases separator character <;> rfl

theorem not_mem_split {separator : Char → Bool} {text piece : Text}
    (isPiece : piece ∈ split separator text) :
    ∀ character ∈ piece, separator character = false := by
  induction text generalizing piece with
  | nil =>
      rw [split, List.mem_singleton] at isPiece
      subst isPiece
      intro character member
      cases member
  | cons first text ih =>
      rw [split] at isPiece
      split at isPiece
      next none => exact absurd none (split_ne_nil separator text)
      next start more pieces =>
        rw [pieces] at ih
        split at isPiece
        next =>
          rcases List.mem_cons.mp isPiece with rfl | later
          · intro character member
            cases member
          · exact ih later
        next other =>
          rcases List.mem_cons.mp isPiece with rfl | later
          · intro character member
            rcases List.mem_cons.mp member with rfl | inner
            · simpa using other
            · exact ih (.head _) character inner
          · exact ih (.tail _ later)

theorem mem_of_mem_split {separator : Char → Bool} {text piece : Text} {character : Char}
    (isPiece : piece ∈ split separator text) (member : character ∈ piece) : character ∈ text := by
  induction text generalizing piece with
  | nil =>
      rw [split, List.mem_singleton] at isPiece
      exact isPiece ▸ member
  | cons first text ih =>
      rw [split] at isPiece
      split at isPiece
      next none => exact absurd none (split_ne_nil separator text)
      next start more pieces =>
        rw [pieces] at ih
        split at isPiece
        · rcases List.mem_cons.mp isPiece with rfl | later
          · cases member
          · exact .tail _ (ih later member)
        · rcases List.mem_cons.mp isPiece with rfl | later
          · rcases List.mem_cons.mp member with rfl | inner
            · exact .head _
            · exact .tail _ (ih (.head _) inner)
          · exact .tail _ (ih (.tail _ later) member)

theorem split_append (character : Char) (before behind : Text) :
    split (· == character) (before ++ character :: behind) =
      split (· == character) before ++ split (· == character) behind := by
  simp only [split_eq_splitOnP]
  exact List.splitOnP_append_cons before behind (beq_self_eq_true character)

theorem split_eq_singleton {character : Char} {text : Text} (without : character ∉ text) :
    split (· == character) text = [text] := by
  rw [split_eq_splitOnP]
  refine List.splitOnP_eq_singleton fun other member => ?_
  rw [beq_eq_false_iff_ne]
  rintro rfl
  exact without member

/-! Pieces that are joined again. -/

theorem join_cons (separator piece next : Text) (pieces : List Text) :
    join separator (piece :: next :: pieces) =
      piece ++ separator ++ join separator (next :: pieces) := rfl

theorem join_split (character : Char) (text : Text) :
    join [character] (split (· == character) text) = text := by
  induction text with
  | nil => rfl
  | cons first text ih =>
      cases pieces : split (· == character) text with
      | nil => exact absurd pieces (split_ne_nil _ text)
      | cons piece more =>
          rw [pieces] at ih
          by_cases separates : first = character
          · simp only [split, pieces, separates, beq_self_eq_true, if_true, join_cons, ih]
            rfl
          · have kept : split (· == character) (first :: text) = (first :: piece) :: more := by
              simp [split, pieces, separates]
            rw [kept]
            cases more with
            | nil => exact congrArg (List.cons first) ih
            | cons next more => exact congrArg (List.cons first) ih

theorem split_join {character : Char} {pieces : List Text} (some : pieces ≠ [])
    (without : ∀ piece ∈ pieces, character ∉ piece) :
    split (· == character) (join [character] pieces) = pieces := by
  induction pieces with
  | nil => exact absurd rfl some
  | cons piece pieces ih =>
      have first := split_eq_singleton (without piece (.head _))
      cases pieces with
      | nil => exact first
      | cons next pieces =>
          have rest := ih (by simp) fun later member => without later (.tail _ member)
          rw [join_cons, List.append_assoc, List.singleton_append, split_append, first, rest]
          rfl

end Compositor.Text

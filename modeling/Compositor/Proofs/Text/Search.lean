import Compositor.Text.Basic
import Mathlib.Data.List.Infix

/-! Searching a text for a piece: what is found is the first occurrence, and a character that the
piece does not hold parts the search into one before it and one behind it. -/

namespace Compositor.Text

theorem cut?_eq_append {piece text before after : Text}
    (found : cut? piece text = some (before, after)) : text = before ++ piece ++ after := by
  fun_induction cut? piece text generalizing before with
  | case1 =>
      simp only [Option.map_eq_some_iff, Prod.mk.injEq] at found
      obtain ⟨rest, stripped, rfl, rfl⟩ := found
      exact stripStart?_eq_some.mp stripped
  | case2 character text rest stripped =>
      simp only [Option.some.injEq, Prod.mk.injEq] at found
      obtain ⟨rfl, rfl⟩ := found
      exact stripStart?_eq_some.mp stripped
  | case3 character text missing ih =>
      simp only [Option.map_eq_some_iff, Prod.mk.injEq, Prod.exists] at found
      obtain ⟨inner, rest, found, rfl, rfl⟩ := found
      rw [ih found]
      rfl

theorem stripStart?_nil {piece : Text} (nonempty : piece ≠ []) : stripStart? piece [] = none := by
  cases piece with
  | nil => exact absurd rfl nonempty
  | cons _ _ => rfl

theorem stripStart?_other {piece : Text} {character : Char} (nonempty : piece ≠ [])
    (other : character ∉ piece) (text : Text) : stripStart? piece (character :: text) = none := by
  cases piece with
  | nil => exact absurd rfl nonempty
  | cons expected piece =>
      have different : expected ≠ character := by
        rintro rfl
        exact other (.head _)
      rw [stripStart?, if_neg different]

theorem cut?_nil {piece : Text} (nonempty : piece ≠ []) : cut? piece [] = none := by
  rw [cut?, stripStart?_nil nonempty]
  rfl

theorem cut?_self (piece after : Text) : cut? piece (piece ++ after) = some ([], after) := by
  have found := stripStart?_append piece after
  cases start : piece ++ after with
  | nil =>
      rw [start] at found
      rw [cut?, found]
      rfl
  | cons character rest =>
      rw [start] at found
      rw [cut?, found]

theorem cut?_cons {piece text : Text} {character : Char}
    (missing : stripStart? piece (character :: text) = none) :
    cut? piece (character :: text) =
      (cut? piece text).map fun (before, after) => (character :: before, after) := by
  rw [cut?, missing]

theorem cut?_eq_none_iff {piece text : Text} : cut? piece text = none ↔ ¬ piece <:+: text := by
  induction text with
  | nil =>
      cases piece with
      | nil => simp [cut?, stripStart?]
      | cons _ _ => simp [cut?, stripStart?]
  | cons character text ih =>
      cases start : stripStart? piece (character :: text) with
      | some rest =>
          have shape := stripStart?_eq_some.mp start
          have found : piece <:+: character :: text := ⟨[], rest, shape.symm⟩
          rw [cut?, start]
          simp [found]
      | none =>
          have notFirst : ¬ piece <+: character :: text := by
            rintro ⟨rest, shape⟩
            rw [stripStart?_eq_some.mpr shape.symm] at start
            cases start
          rw [cut?_cons start, Option.map_eq_none_iff, ih, List.infix_cons_iff, not_or]
          exact ⟨fun later => ⟨notFirst, later⟩, fun both => both.2⟩

theorem cut?_first {piece text before after : Text} (found : cut? piece text = some (before, after))
    {earlier rest : Text} (occurs : text = earlier ++ piece ++ rest) :
    before.length ≤ earlier.length := by
  induction text generalizing before earlier with
  | nil =>
      have none : before = [] := by
        have shape := cut?_eq_append found
        simp only [List.nil_eq, List.append_eq_nil_iff] at shape
        exact shape.1.1
      simp [none]
  | cons character text ih =>
      cases start : stripStart? piece (character :: text) with
      | some rest =>
          rw [cut?, start] at found
          cases found
          exact Nat.zero_le _
      | none =>
          rw [cut?_cons start] at found
          simp only [Option.map_eq_some_iff, Prod.mk.injEq, Prod.exists] at found
          obtain ⟨inner, _, found, rfl, rfl⟩ := found
          cases earlier with
          | nil =>
              rw [List.nil_append] at occurs
              rw [occurs, stripStart?_append] at start
              cases start
          | cons first earlier =>
              simp only [List.cons_append, List.cons.injEq] at occurs
              have shorter := ih found occurs.2
              simp only [List.length_cons]
              omega

theorem cut?_character {character : Char} {before : Text} (without : character ∉ before)
    (after : Text) : cut? [character] (before ++ character :: after) = some (before, after) := by
  induction before with
  | nil => exact cut?_self [character] after
  | cons first before ih =>
      have different : character ≠ first := by
        rintro rfl
        exact without (.head _)
      have missing : stripStart? [character] (first :: (before ++ character :: after)) = none := by
        rw [stripStart?, if_neg different]
      rw [List.cons_append, cut?_cons missing, ih fun member => without (.tail _ member)]
      rfl

theorem cut?_character_eq_some_iff {character : Char} {text before after : Text} :
    cut? [character] text = some (before, after) ↔
      character ∉ before ∧ text = before ++ character :: after := by
  constructor
  · intro found
    have shape := cut?_eq_append found
    rw [List.append_assoc, List.singleton_append] at shape
    refine ⟨?_, shape⟩
    intro inside
    obtain ⟨front, behind, rfl⟩ := List.append_of_mem inside
    have occurs : text = front ++ [character] ++ (behind ++ character :: after) := by
      rw [shape]
      simp
    have bound := cut?_first found occurs
    simp only [List.length_append, List.length_cons] at bound
    omega
  · rintro ⟨without, rfl⟩
    exact cut?_character without after

theorem stripStart?_parted {piece : Text} {character : Char} (other : character ∉ piece)
    (front behind : Text) :
    stripStart? piece (front ++ character :: behind) =
      (stripStart? piece front).map (· ++ character :: behind) := by
  induction piece generalizing front with
  | nil => rfl
  | cons expected piece ih =>
      have different : expected ≠ character := by
        rintro rfl
        exact other (.head _)
      cases front with
      | nil =>
          have nonempty := List.cons_ne_nil expected piece
          rw [List.nil_append, stripStart?_other nonempty other, stripStart?_nil nonempty]
          rfl
      | cons found front =>
          simp only [List.cons_append, stripStart?]
          split
          next => exact ih (fun member => other (.tail _ member)) front
          next => rfl

variable {piece : Text} {character : Char}

theorem cut?_parted_before (nonempty : piece ≠ []) (other : character ∉ piece)
    {front before after : Text} (found : cut? piece front = some (before, after)) (behind : Text) :
    cut? piece (front ++ character :: behind) = some (before, after ++ character :: behind) := by
  induction front generalizing before with
  | nil =>
      rw [cut?_nil nonempty] at found
      cases found
  | cons first front ih =>
      have start := stripStart?_parted other (first :: front) behind
      rw [List.cons_append] at start ⊢
      cases atFirst : stripStart? piece (first :: front) with
      | some rest =>
          rw [cut?, atFirst] at found
          cases found
          rw [cut?, start, atFirst]
          rfl
      | none =>
          rw [cut?_cons atFirst] at found
          simp only [Option.map_eq_some_iff, Prod.mk.injEq, Prod.exists] at found
          obtain ⟨inner, _, found, rfl, rfl⟩ := found
          rw [atFirst] at start
          rw [cut?_cons start, ih found]
          rfl

theorem cut?_parted_behind (nonempty : piece ≠ []) (other : character ∉ piece) {front : Text}
    (missing : cut? piece front = none) (behind : Text) :
    cut? piece (front ++ character :: behind) =
      (cut? piece behind).map fun (before, after) => (front ++ character :: before, after) := by
  induction front with
  | nil => exact cut?_cons (stripStart?_other nonempty other behind)
  | cons first front ih =>
      have start := stripStart?_parted other (first :: front) behind
      rw [cut?_eq_none_iff, List.infix_cons_iff, not_or] at missing
      have notFirst : stripStart? piece (first :: front) = none := by
        cases found : stripStart? piece (first :: front) with
        | none => rfl
        | some rest => exact absurd ⟨rest, (stripStart?_eq_some.mp found).symm⟩ missing.1
      rw [notFirst, List.cons_append] at start
      rw [List.cons_append, cut?_cons start, ih (cut?_eq_none_iff.mpr missing.2), Option.map_map]
      rfl

end Compositor.Text

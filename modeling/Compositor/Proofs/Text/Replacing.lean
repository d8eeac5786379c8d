import Compositor.Text.Basic
import Mathlib.Data.List.Infix

/-! Replacing a piece of a text. The search goes from the left, past what starts no occurrence. -/

namespace Compositor.Text

theorem startsWith_iff {piece text : Text} : startsWith piece text = true ↔ piece <+: text := by
  rw [startsWith, Option.isSome_iff_exists]
  constructor
  · rintro ⟨rest, found⟩
    exact ⟨rest, (stripStart?_eq_some.mp found).symm⟩
  · rintro ⟨rest, shape⟩
    exact ⟨rest, stripStart?_eq_some.mpr shape.symm⟩

variable {piece : Text} (replacement : Text)

theorem replaceAll_pass {character : Char} {text : Text} (other : ¬ piece <+: character :: text) :
    replaceAll piece replacement (character :: text) =
      character :: replaceAll piece replacement text := by
  rw [replaceAll, replaceFrom, if_neg (by rwa [startsWith_iff]), replaceAll]

theorem replaceFrom_skip (front text : Text) :
    replaceFrom piece replacement front.length (front ++ text) =
      replaceFrom piece replacement 0 text := by
  induction front with
  | nil => rfl
  | cons character front ih => exact ih

theorem replaceAll_found (nonempty : piece ≠ []) (text : Text) :
    replaceAll piece replacement (piece ++ text) =
      replacement ++ replaceAll piece replacement text := by
  cases shape : piece with
  | nil => exact absurd shape nonempty
  | cons character rest =>
      have found : startsWith (character :: rest) (character :: (rest ++ text)) = true :=
        startsWith_iff.mpr ⟨text, rfl⟩
      rw [List.cons_append, replaceAll, replaceFrom, if_pos found, List.length_cons,
        Nat.add_sub_cancel, replaceFrom_skip, replaceAll]

theorem replaceAll_front {first : Char} {rest front : Text} (without : first ∉ front)
    (text : Text) :
    replaceAll (first :: rest) replacement (front ++ text) =
      front ++ replaceAll (first :: rest) replacement text := by
  induction front with
  | nil => rfl
  | cons character front ih =>
      have other : ¬ first :: rest <+: character :: (front ++ text) := by
        rw [List.cons_prefix_cons]
        rintro ⟨rfl, -⟩
        exact without (.head _)
      rw [List.cons_append, replaceAll_pass replacement other,
        ih fun member => without (.tail _ member)]
      rfl

theorem replaceAll_character (character : Char) (text : Text) :
    replaceAll [character] replacement text =
      text.flatMap fun found => if found = character then replacement else [found] := by
  induction text with
  | nil => rfl
  | cons found text ih =>
      rw [List.flatMap_cons, ← ih]
      by_cases same : found = character
      · rw [if_pos same, same]
        exact replaceAll_found replacement (by simp) text
      · rw [if_neg same]
        exact replaceAll_pass replacement (by simpa using Ne.symm same)

/-- A character parts two texts at the same place where it first stands. -/
theorem prefix_parted {character : Char} {first second more rest : Text}
    (firstWithout : character ∉ first) (secondWithout : character ∉ second)
    (before : first ++ character :: more <+: second ++ character :: rest) :
    first = second ∧ more <+: rest := by
  induction first generalizing second with
  | nil =>
      cases second with
      | nil => exact ⟨rfl, (List.cons_prefix_cons.mp before).2⟩
      | cons head second =>
          have same := (List.cons_prefix_cons.mp before).1
          exact absurd (same ▸ List.mem_cons_self) secondWithout
  | cons head first ih =>
      cases second with
      | nil =>
          have same := (List.cons_prefix_cons.mp before).1
          exact absurd (same ▸ List.mem_cons_self) firstWithout
      | cons other second =>
          obtain ⟨rfl, inner⟩ := List.cons_prefix_cons.mp before
          obtain ⟨rfl, behind⟩ := ih (fun member => firstWithout (.tail _ member))
            (fun member => secondWithout (.tail _ member)) inner
          exact ⟨rfl, behind⟩

end Compositor.Text

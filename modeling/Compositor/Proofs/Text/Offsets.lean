import Compositor.Proofs.Text.Search
import Compositor.Text.Bytes

/-! Places in a text, counted in bytes. A text can be cut between its characters only, so not every
number of bytes is such a place. -/

namespace Compositor.Text

def size (text : Text) : Nat := text.toBytes.length

theorem size_append (before after : Text) : size (before ++ after) = size before + size after := by
  simp only [size, toBytes, List.flatMap_append, List.length_append]

theorem size_singleton (character : Char) : size [character] = character.utf8Size := by
  simp [size, toBytes]

theorem size_cons (character : Char) (text : Text) :
    size (character :: text) = character.utf8Size + size text := by
  rw [← List.singleton_append, size_append, size_singleton]

/-- The two sides of a place; none where a character would be cut or the text is too short. -/
def cutAt? : (offset : Nat) → (text : Text) → Option (Text × Text)
  | 0, text => some ([], text)
  | _ + 1, [] => none
  | offset + 1, character :: text =>
      if character.utf8Size ≤ offset + 1 then
        (cutAt? (offset + 1 - character.utf8Size) text).map fun (before, after) =>
          (character :: before, after)
      else none

theorem cutAt?_size (before after : Text) :
    cutAt? (size before) (before ++ after) = some (before, after) := by
  induction before with
  | nil => rw [show size [] = 0 from rfl, List.nil_append, cutAt?]
  | cons character before ih =>
      have positive := character.utf8Size_pos
      obtain ⟨offset, total⟩ : ∃ offset, size (character :: before) = offset + 1 :=
        Nat.exists_eq_succ_of_ne_zero (by rw [size_cons]; omega)
      have whole : character.utf8Size ≤ offset + 1 := by
        rw [← total, size_cons]
        omega
      have behind : offset + 1 - character.utf8Size = size before := by
        rw [← total, size_cons]
        omega
      rw [total, List.cons_append, cutAt?, if_pos whole, behind, ih]
      rfl

theorem cutAt?_eq_some_iff {offset : Nat} {text before after : Text} :
    cutAt? offset text = some (before, after) ↔ size before = offset ∧ text = before ++ after := by
  constructor
  · intro cut
    fun_induction cutAt? offset text generalizing before with
    | case1 text =>
        cases cut
        exact ⟨rfl, rfl⟩
    | case2 => cases cut
    | case3 offset character text whole ih =>
        simp only [Option.map_eq_some_iff, Prod.mk.injEq, Prod.exists] at cut
        obtain ⟨inner, _, cut, rfl, rfl⟩ := cut
        obtain ⟨sizes, rfl⟩ := ih cut
        refine ⟨?_, rfl⟩
        rw [size_cons, sizes]
        omega
    | case4 => cases cut
  · rintro ⟨rfl, rfl⟩
    exact cutAt?_size before after

theorem cutAt?_first (character : Char) (text : Text) :
    cutAt? character.utf8Size (character :: text) = some ([character], text) :=
  cutAt?_eq_some_iff.mpr ⟨size_singleton character, rfl⟩

theorem cutAt?_cons {offset : Nat} {text before after : Text} (character : Char)
    (cut : cutAt? offset text = some (before, after)) :
    cutAt? (offset + character.utf8Size) (character :: text) =
      some (character :: before, after) := by
  obtain ⟨rfl, rfl⟩ := cutAt?_eq_some_iff.mp cut
  exact cutAt?_eq_some_iff.mpr ⟨by rw [size_cons, Nat.add_comm], rfl⟩

def offset? (piece text : Text) : Option Nat :=
  (cut? piece text).map fun (before, _) => size before

theorem offset?_missing {piece text : Text} (missing : cut? piece text = none) :
    offset? piece text = none := by
  rw [offset?, missing]
  rfl

section
variable {piece text before after : Text} (found : cut? piece text = some (before, after))
include found

theorem offset?_found : offset? piece text = some (size before) := by
  rw [offset?, found]
  rfl

theorem cutAt?_beforePiece : cutAt? (size before) text = some (before, piece ++ after) := by
  refine cutAt?_eq_some_iff.mpr ⟨rfl, ?_⟩
  rw [cut?_eq_append found, List.append_assoc]

theorem cutAt?_behindPiece :
    cutAt? (size before + size piece) text = some (before ++ piece, after) :=
  cutAt?_eq_some_iff.mpr ⟨size_append before piece, cut?_eq_append found⟩

end

end Compositor.Text

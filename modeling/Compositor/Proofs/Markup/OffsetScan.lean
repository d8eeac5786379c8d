import Compositor.Proofs.Markup.Scans
import Compositor.Proofs.Text.Offsets

/-! The scan for delimiters as it goes through the bytes of a text. It knows places by their offsets
and cuts the text there, turn by turn, until no delimiter is ahead. No cut falls into a character,
the turns come to an end, and what they pass are the runs of the text. -/

namespace Compositor.Markup

open Text

/-! Passing text. -/

def pass (text : Text) (runs : List Run) : List Run := text.foldr consLiteral runs

theorem pass_cons (character : Char) (text : Text) (runs : List Run) :
    pass (character :: text) runs = consLiteral character (pass text runs) := rfl

theorem pass_append (first second : Text) (runs : List Run) :
    pass (first ++ second) runs = pass first (pass second runs) := by
  rw [pass, List.foldr_append, ← pass, ← pass]

theorem runs_literal {delimiter front rest : Text}
    (noDelimiter : ∀ behind, behind ≠ [] → behind <:+ front → ¬ delimiter <+: behind ++ rest) :
    runs delimiter (front ++ rest) = pass front (runs delimiter rest) := by
  induction front with
  | nil => rfl
  | cons character front ih =>
      have missing : stripStart? delimiter (character :: (front ++ rest)) = none := by
        rw [Option.eq_none_iff_forall_ne_some]
        intro after found
        exact noDelimiter (character :: front) (List.cons_ne_nil _ _) List.suffix_rfl
          ⟨after, (stripStart?_eq_some.mp found).symm⟩
      rw [List.cons_append, runs_pass missing, pass_cons, ih]
      intro behind filled suffix
      exact noDelimiter behind filled (suffix.trans (List.suffix_cons _ _))

theorem runs_noDelimiter {delimiter text : Text} (missing : cut? delimiter text = none) :
    runs delimiter text = pass text [] := by
  rw [cut?_eq_none_iff] at missing
  have literal := @runs_literal delimiter text []
  rw [List.append_nil, runs] at literal
  refine literal ?_
  rintro behind - suffix before
  rw [List.append_nil] at before
  exact missing (before.isInfix.trans suffix.isInfix)

theorem runs_toDelimiter {delimiter text before inner : Text}
    (found : cut? delimiter text = some (before, inner)) :
    runs delimiter text = pass before (runs delimiter (delimiter ++ inner)) := by
  have shape := cut?_eq_append found
  rw [List.append_assoc] at shape
  have literal := @runs_literal delimiter before (delimiter ++ inner)
  rw [← shape] at literal
  refine literal ?_
  rintro behind filled ⟨earlier, rfl⟩ ⟨after, start⟩
  have occurs : text = earlier ++ delimiter ++ after := by
    rw [shape, List.append_assoc, List.append_assoc, start]
  have bound := cut?_first found occurs
  have positive := List.length_pos_iff.mpr filled
  rw [List.length_append] at bound
  omega

/-! One turn. -/

inductive Turn where
  | last
  | pass (literal rest : Text)
  | span (literal content rest : Text)

def secondOffset? : Text → Option Nat
  | first :: _ :: _ => some first.utf8Size
  | _ => none

/-- No span opens at this offset: its character is passed with what stands before it. -/
def passTo? (start : Nat) (text : Text) : Option Turn := do
  let (_, behind) ← cutAt? start text
  let (literal, rest) ← cutAt? (start + behind.head?.elim 1 Char.utf8Size) text
  return .pass literal rest

/-- What is passed next; none if a cut falls into a character. -/
def turn? (delimiter text : Text) : Option Turn :=
  match offset? delimiter text with
  | none => some .last
  | some start => do
      let (_, inner) ← cutAt? (start + size delimiter) text
      match secondOffset? inner with
      | none => passTo? start text
      | some second =>
          let (_, behind) ← cutAt? second inner
          match offset? delimiter behind with
          | none => passTo? start text
          | some distance =>
              let stop := distance + second
              let (content, _) ← cutAt? stop inner
              if '\n' ∈ content then passTo? start text
              else
                let (literal, _) ← cutAt? start text
                let (_, rest) ← cutAt? (stop + size delimiter) inner
                return .span literal content rest

inductive OffsetScan (delimiter : Text) : Text → List Run → Prop
  | last {text : Text} : turn? delimiter text = some .last →
      OffsetScan delimiter text (pass text [])
  | pass {text literal rest : Text} {runs : List Run} :
      turn? delimiter text = some (.pass literal rest) → OffsetScan delimiter rest runs →
      OffsetScan delimiter text (pass literal runs)
  | span {text literal content rest : Text} {runs : List Run} :
      turn? delimiter text = some (.span literal content rest) → OffsetScan delimiter rest runs →
      OffsetScan delimiter text (pass literal (.span content :: runs))

theorem OffsetScan.unique {delimiter text : Text} {first second : List Run}
    (one : OffsetScan delimiter text first) (other : OffsetScan delimiter text second) :
    first = second := by
  induction one generalizing second with
  | last turn =>
      cases other with
      | last => rfl
      | pass again _ | span again _ =>
          rw [turn] at again
          cases again
  | pass turn _ ih =>
      cases other with
      | last again | span again _ =>
          rw [turn] at again
          cases again
      | pass again rest =>
          rw [turn] at again
          cases again
          rw [ih rest]
  | span turn _ ih =>
      cases other with
      | last again | pass again _ =>
          rw [turn] at again
          cases again
      | span again rest =>
          rw [turn] at again
          cases again
          rw [ih rest]

/-! What a turn passes. -/

section
variable {delimiter text before inner : Text}

theorem turn?_last (missing : cut? delimiter text = none) : turn? delimiter text = some .last := by
  rw [turn?, offset?_missing missing]

theorem passTo?_character (before : Text) (character : Char) (rest : Text) :
    passTo? (size before) (before ++ character :: rest) =
      some (.pass (before ++ [character]) rest) := by
  have start : cutAt? (size before) (before ++ character :: rest) =
      some (before, character :: rest) :=
    cutAt?_eq_some_iff.mpr ⟨rfl, rfl⟩
  have stop : cutAt? (size before + character.utf8Size) (before ++ character :: rest) =
      some (before ++ [character], rest) := by
    refine cutAt?_eq_some_iff.mpr ⟨?_, by simp⟩
    rw [size_append, size_singleton]
  simp [passTo?, start, stop]

theorem secondOffset?_long (first : Char) {behind : Text} (long : behind ≠ []) :
    secondOffset? (first :: behind) = some first.utf8Size := by
  cases behind with
  | nil => exact absurd rfl long
  | cons _ _ => rfl

theorem turn?_span {content rest : Text} (filled : delimiter ≠ [])
    (found : cut? delimiter text = some (before, inner))
    (closed : closeSpan? delimiter inner = some (content, rest)) :
    turn? delimiter text = some (.span before content rest) := by
  obtain ⟨first, behind, more, rfl, rfl, closing, oneLine⟩ := closeSpan?_eq_some closed
  have long : behind ≠ [] := by
    rintro rfl
    rw [cut?_nil filled] at closing
    cases closing
  have contentCut := cutAt?_cons first (cutAt?_beforePiece closing)
  have restCut := cutAt?_cons first (cutAt?_behindPiece closing)
  rw [Nat.add_right_comm] at restCut
  simp [turn?, offset?_found found, cutAt?_behindPiece found, secondOffset?_long first long,
    cutAt?_first first behind, offset?_found closing, contentCut, oneLine, cutAt?_beforePiece found,
    restCut]

theorem turn?_pass {character : Char}
    (found : cut? (character :: delimiter) text = some (before, inner))
    (unclosed : closeSpan? (character :: delimiter) inner = none) :
    turn? (character :: delimiter) text =
      some (.pass (before ++ [character]) (delimiter ++ inner)) := by
  have passed : passTo? (size before) text =
      some (.pass (before ++ [character]) (delimiter ++ inner)) := by
    rw [cut?_eq_append found, List.append_assoc, List.cons_append]
    exact passTo?_character before character (delimiter ++ inner)
  -- Behind the delimiter are less than two characters, no other delimiter, or a line feed first.
  rcases inner with _ | ⟨first, _ | ⟨next, behind⟩⟩
  · simp [turn?, offset?_found found, cutAt?_behindPiece found, secondOffset?, passed]
  · simp [turn?, offset?_found found, cutAt?_behindPiece found, secondOffset?, passed]
  · have second := secondOffset?_long first (List.cons_ne_nil next behind)
    have afterFirst := cutAt?_first first (next :: behind)
    cases closing : cut? (character :: delimiter) (next :: behind) with
    | none =>
        simp [turn?, offset?_found found, cutAt?_behindPiece found, second, afterFirst,
          offset?_missing closing, passed]
    | some both =>
        obtain ⟨more, rest⟩ := both
        have contentCut := cutAt?_cons first (cutAt?_beforePiece closing)
        have broken : '\n' ∈ first :: more := by
          simp only [closeSpan?, closing] at unclosed
          split at unclosed
          next broken => simpa using broken
          next => cases unclosed
        simp [turn?, offset?_found found, cutAt?_behindPiece found, second, afterFirst,
          offset?_found closing, contentCut, broken, passed]

end

/-- A scan through the bytes of a text ends, and with the runs of the text. -/
theorem offsetScan_runs {delimiter : Text} (filled : delimiter ≠ []) (text : Text) :
    OffsetScan delimiter text (runs delimiter text) := by
  generalize size : text.length = length
  induction length using Nat.strongRecOn generalizing text with
  | ind length ih =>
      cases found : cut? delimiter text with
      | none =>
          rw [runs_noDelimiter found]
          exact .last (turn?_last found)
      | some both =>
          obtain ⟨before, inner⟩ := both
          have shorter := cut?_length found
          cases delimiter with
          | nil => exact absurd rfl filled
          | cons character delimiter =>
              have opened := stripStart?_append (character :: delimiter) inner
              rw [List.cons_append] at opened
              rw [runs_toDelimiter found, List.cons_append]
              rw [List.length_cons] at shorter
              cases closed : closeSpan? (character :: delimiter) inner with
              | some both =>
                  obtain ⟨content, rest⟩ := both
                  have restShorter := closeSpan?_length closed
                  rw [runs_open opened closed]
                  exact .span (turn?_span filled found closed) (ih rest.length (by omega) rest rfl)
              | none =>
                  have retried := ih (delimiter ++ inner).length
                    (by rw [List.length_append]; omega) _ rfl
                  have passed := OffsetScan.pass (turn?_pass found closed) retried
                  rw [pass_append] at passed
                  rw [runs_lone opened closed]
                  exact passed

end Compositor.Markup

import Compositor.Proofs.Text.Replacing
import Compositor.Proofs.Text.Splitting
import Compositor.Proofs.Text.Squeeze

/-! The lines of a text as the pieces between its line feeds. -/

namespace Compositor.Text

def feedLines (text : Text) : List Text := split (· == '\n') text

/-- The lines of a text in which a carriage return before a line feed does not count. -/
def plainLines (text : Text) : List Text := feedLines (replaceAll ['\r', '\n'] ['\n'] text)

theorem feedLines_nil : feedLines [] = [[]] := rfl

theorem feedLines_feed (text : Text) : feedLines ('\n' :: text) = [] :: feedLines text :=
  split_append '\n' [] text

theorem feedLines_oneLine {line : Text} (oneLine : '\n' ∉ line) : feedLines line = [line] :=
  split_eq_singleton oneLine

theorem oneLine_of_mem_feedLines {text line : Text} (isLine : line ∈ feedLines text) :
    '\n' ∉ line := by
  intro feed
  simpa using not_mem_split isLine '\n' feed

theorem feedLines_cons {character : Char} (other : character ≠ '\n') {text line : Text}
    {more : List Text} (lines : feedLines text = line :: more) :
    feedLines (character :: text) = (character :: line) :: more := by
  unfold feedLines at lines ⊢
  rw [split, lines]
  simp [other]

theorem feedLines_written {lines : List Text} (oneLine : ∀ line ∈ lines, '\n' ∉ line)
    (behind : Text) :
    feedLines (lines.flatMap (· ++ ['\n']) ++ behind) = lines ++ feedLines behind := by
  induction lines with
  | nil => rfl
  | cons line lines ih =>
      have rest := ih fun later member => oneLine later (.tail _ member)
      have shape : (line :: lines).flatMap (· ++ ['\n']) ++ behind =
          line ++ '\n' :: (lines.flatMap (· ++ ['\n']) ++ behind) := by simp
      rw [shape, feedLines, split_append]
      change feedLines line ++ feedLines _ = _
      rw [feedLines_oneLine (oneLine line (.head _)), rest]
      rfl

theorem lines_eq_nil_iff {text : Text} : lines text = [] ↔ text = [] := by
  constructor
  · intro none
    unfold lines at none
    split at none
    · rfl
    · cases none
    · cases none
    · split at none <;> cases none
  · rintro rfl
    rfl

theorem lines_eq_plainLines {text : Text} (filled : text ≠ [])
    (noFeed : text.getLast? ≠ some '\n') : lines text = plainLines text := by
  unfold plainLines
  fun_induction lines text with
  | case1 => exact absurd rfl filled
  | case2 text ih =>
      have rest : text ≠ [] := by
        rintro rfl
        exact noFeed rfl
      rw [replaceAll_pass _ (by simp), feedLines_feed, ih rest]
      rwa [List.getLast?_cons_of_ne_nil rest] at noFeed
  | case3 text ih =>
      have rest : text ≠ [] := by
        rintro rfl
        exact noFeed rfl
      have found := replaceAll_found ['\n'] (List.cons_ne_nil '\r' ['\n']) text
      simp only [List.cons_append, List.nil_append] at found
      rw [found, feedLines_feed, ih rest]
      rwa [List.getLast?_cons_cons, List.getLast?_cons_of_ne_nil rest] at noFeed
  | case4 character text notFeed _ none _ =>
      rw [lines_eq_nil_iff.mp none, replaceAll_pass _ (by simp)]
      exact (feedLines_cons notFeed feedLines_nil).symm
  | case5 character text notFeed notReturn line more found ih =>
      have rest : text ≠ [] := by
        rintro rfl
        cases found
      rw [List.getLast?_cons_of_ne_nil rest] at noFeed
      have passed : ¬ ['\r', '\n'] <+: character :: text := by
        rintro ⟨after, shape⟩
        simp only [List.cons_append, List.nil_append, List.cons.injEq] at shape
        exact notReturn after shape.1.symm shape.2.symm
      rw [replaceAll_pass _ passed, feedLines_cons notFeed]
      rw [← ih rest noFeed, found]

/-! Lines that do not end in white space, one below the other. -/

theorem below_written (first : Text) (following : List Text) :
    first ++ following.flatMap ('\n' :: ·) ++ ['\n'] =
      (first :: following).flatMap (· ++ ['\n']) := by
  induction following generalizing first with
  | nil => simp
  | cons next following ih =>
      have rest := ih next
      simp only [List.flatMap_cons, List.append_assoc, List.cons_append,
        List.nil_append] at rest ⊢
      rw [rest]

structure IsLine (line : Text) : Prop where
  oneLine : '\n' ∉ line
  back : ∃ before last, line = before ++ [last] ∧ isBlank last = false

theorem replaceAll_line {line : Text} (isLine : IsLine line) (rest : Text) :
    replaceAll ['\r', '\n'] ['\n'] (line ++ rest) =
      line ++ replaceAll ['\r', '\n'] ['\n'] rest := by
  obtain ⟨oneLine, before, last, rfl, notBlank⟩ := isLine
  induction before with
  | nil =>
      refine replaceAll_pass _ ?_
      rintro ⟨after, shape⟩
      simp only [List.cons_append, List.nil_append, List.cons.injEq] at shape
      rw [← shape.1] at notBlank
      exact absurd notBlank (by decide)
  | cons character before ih =>
      simp only [List.cons_append, List.mem_cons, not_or] at oneLine
      have passed : ¬ ['\r', '\n'] <+: character :: (before ++ [last] ++ rest) := by
        -- The line feed would be a character of the line.
        rintro ⟨after, shape⟩
        cases before with
        | nil => simp_all
        | cons next before => simp_all
      rw [List.cons_append, List.cons_append, replaceAll_pass _ passed, ih oneLine.2]
      rfl

theorem plainLines_line {line : Text} (isLine : IsLine line) : plainLines line = [line] := by
  have same := replaceAll_line isLine []
  rw [List.append_nil] at same
  rw [plainLines, same]
  change feedLines (line ++ []) = [line]
  rw [List.append_nil, feedLines_oneLine isLine.oneLine]

theorem plainLines_above {line : Text} (isLine : IsLine line) (rest : Text) :
    plainLines (line ++ '\n' :: rest) = line :: plainLines rest := by
  unfold plainLines
  rw [replaceAll_line isLine, replaceAll_pass _ (by simp), feedLines, split_append]
  change feedLines line ++ _ = _
  rw [feedLines_oneLine isLine.oneLine]
  rfl

theorem plainLines_below {first : Text} {following : List Text}
    (areLines : ∀ line ∈ first :: following, IsLine line) :
    plainLines (first ++ following.flatMap ('\n' :: ·)) = first :: following := by
  induction following generalizing first with
  | nil =>
      rw [List.flatMap_nil, List.append_nil]
      exact plainLines_line (areLines first (.head _))
  | cons next following ih =>
      have rest := ih fun line member => areLines line (.tail _ member)
      rw [List.flatMap_cons, List.cons_append, plainLines_above (areLines first (.head _)), rest]

theorem below_back {first : Text} {following : List Text}
    (areLines : ∀ line ∈ first :: following, IsLine line) :
    ∃ before last, first ++ following.flatMap ('\n' :: ·) = before ++ [last] ∧
      isBlank last = false := by
  induction following generalizing first with
  | nil =>
      rw [List.flatMap_nil, List.append_nil]
      exact (areLines first (.head _)).back
  | cons next following ih =>
      obtain ⟨before, last, shape, notBlank⟩ :=
        ih fun line member => areLines line (.tail _ member)
      refine ⟨first ++ '\n' :: before, last, ?_, notBlank⟩
      rw [List.flatMap_cons, List.cons_append, shape]
      simp

theorem trim_append_blank {text blank : Text}
    (front : ∃ first rest, text = first :: rest ∧ isBlank first = false)
    (back : ∃ before last, text = before ++ [last] ∧ isBlank last = false)
    (areBlank : ∀ character ∈ blank, isBlank character = true) : trim (text ++ blank) = text := by
  have start : trimStart (text ++ blank) = text ++ blank := by
    obtain ⟨first, rest, rfl, notBlank⟩ := front
    exact List.dropWhile_cons_of_neg (by simp [notBlank])
  obtain ⟨before, last, rfl, notBlank⟩ := back
  have reversed : ∀ character ∈ blank.reverse, isBlank character = true := by
    intro character member
    exact areBlank character (List.mem_reverse.mp member)
  rw [trim, start, trimEnd, List.reverse_append, List.dropWhile_append_of_pos reversed,
    List.reverse_append, List.reverse_singleton, List.singleton_append,
    List.dropWhile_cons_of_neg (by simp [notBlank])]
  simp

end Compositor.Text

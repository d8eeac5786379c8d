import Compositor.Proofs.Text.Lines
import Mathlib.Data.List.TakeWhile

/-! A text without the blank lines before it and without the white space behind it. To trim the text
takes the indentation of its first line as well, and nothing else. -/

namespace Compositor.Text

variable {text line : Text} {lines : List Text}

/-! White space at both ends. -/

theorem trimStart_append (blank : ∀ character ∈ line, isBlank character = true) (text : Text) :
    trimStart (line ++ text) = trimStart text :=
  List.dropWhile_append_of_pos blank

theorem trimEnd_append (blank : ∀ character ∈ line, isBlank character = true) (text : Text) :
    trimEnd (text ++ line) = trimEnd text := by
  have reversed : ∀ character ∈ line.reverse, isBlank character = true :=
    fun character member => blank character (List.mem_reverse.mp member)
  rw [trimEnd, List.reverse_append, List.dropWhile_append_of_pos reversed, trimEnd]

theorem trimEnd_blank {character : Char} (blank : isBlank character = true)
    (none : trimEnd text = []) : trimEnd (character :: text) = [] := by
  have allBlank : ∀ other ∈ text, isBlank other = true := by
    simpa [trimEnd, List.dropWhile_eq_nil_iff] using none
  simpa [trimEnd, List.dropWhile_eq_nil_iff, or_imp, forall_and, blank] using allBlank

theorem trimEnd_solid {character : Char}
    (solid : isBlank character = false ∨ trimEnd text ≠ []) :
    trimEnd (character :: text) = character :: trimEnd text := by
  unfold trimEnd at solid ⊢
  rw [List.reverse_cons]
  rcases solid with notBlank | some
  · by_cases none : text.reverse.dropWhile isBlank = []
    · rw [List.dropWhile_append, none]
      simp [notBlank]
    · rw [List.dropWhile_append]
      simp [none]
  · have notNone : text.reverse.dropWhile isBlank ≠ [] := by simpa using some
    rw [List.dropWhile_append]
    simp [notNone]

theorem trim_endFirst (text : Text) : trim text = trimStart (trimEnd text) := by
  rw [trim]
  induction text with
  | nil => rfl
  | cons character text ih =>
      cases blank : isBlank character with
      | true =>
          have start : trimStart (character :: text) = trimStart text :=
            List.dropWhile_cons_of_pos blank
          by_cases none : trimEnd text = []
          · rw [start, ih, trimEnd_blank blank none, none]
          · rw [start, ih, trimEnd_solid (.inr none)]
            exact (List.dropWhile_cons_of_pos blank).symm
      | false =>
          have start (rest : Text) : trimStart (character :: rest) = character :: rest :=
            List.dropWhile_cons_of_neg (by simp [blank])
          rw [start, trimEnd_solid (.inl blank), start]

/-! Blank lines. -/

def isBlankLine (line : Text) : Bool := line.all isBlank

def dropBlankLines (text : Text) : Text :=
  join ['\n'] ((feedLines text).dropWhile isBlankLine)

def indentation (text : Text) : Text := text.takeWhile isBlank

theorem trimStart_eq_self_iff : trimStart text = text ↔ indentation text = [] := by
  have whole := List.takeWhile_append_dropWhile (p := isBlank) (l := text)
  constructor
  · intro same
    unfold trimStart at same
    rw [same] at whole
    exact List.append_left_eq_self.mp whole
  · intro none
    unfold indentation at none
    rw [none] at whole
    exact whole

theorem trimStart_join_dropWhile (lines : List Text) :
    trimStart (join ['\n'] (lines.dropWhile isBlankLine)) = trimStart (join ['\n'] lines) := by
  induction lines with
  | nil => rfl
  | cons line lines ih =>
      cases blank : isBlankLine line with
      | false => rw [List.dropWhile_cons_of_neg (by simp [blank])]
      | true =>
          have allBlank : ∀ character ∈ line, isBlank character = true := by
            simpa [isBlankLine] using blank
          rw [List.dropWhile_cons_of_pos blank, ih]
          cases lines with
          | nil =>
              have none := trimStart_append allBlank []
              rw [List.append_nil] at none
              exact none.symm
          | cons next lines =>
              have feed : ∀ character ∈ line ++ ['\n'], isBlank character = true := by
                simpa [or_imp, forall_and] using ⟨allBlank, by decide⟩
              exact (trimStart_append feed _).symm

theorem trimStart_dropBlankLines (text : Text) :
    trimStart (dropBlankLines text) = trimStart text := by
  rw [dropBlankLines, trimStart_join_dropWhile, feedLines, join_split]

theorem feedLines_trimStart {more : List Text} (whole : feedLines text = line :: more)
    (solid : isBlankLine line = false) : feedLines (trimStart text) = trimStart line :: more := by
  induction text generalizing line with
  | nil =>
      cases whole
      cases solid
  | cons character text ih =>
      cases rest : feedLines text with
      | nil => exact absurd rest (split_ne_nil _ text)
      | cons next others =>
          by_cases feed : character = '\n'
          · subst feed
            rw [feedLines_feed, List.cons.injEq] at whole
            rw [← whole.1] at solid
            cases solid
          · rw [feedLines_cons feed rest, List.cons.injEq] at whole
            obtain ⟨rfl, rfl⟩ := whole
            cases blank : isBlank character with
            | true =>
                have solidRest : isBlankLine next = false := by
                  simpa [isBlankLine, blank] using solid
                have start (behind : Text) :
                    trimStart (character :: behind) = trimStart behind :=
                  List.dropWhile_cons_of_pos blank
                rw [start, start, ih rest solidRest]
            | false =>
                have start (behind : Text) :
                    trimStart (character :: behind) = character :: behind :=
                  List.dropWhile_cons_of_neg (by simp [blank])
                rw [start, start, feedLines_cons feed rest]

theorem feedLines_dropBlankLines (some : dropBlankLines text ≠ []) :
    ∃ line more, feedLines (dropBlankLines text) = line :: more ∧ isBlankLine line = false := by
  unfold dropBlankLines at some ⊢
  have oneLine : ∀ line ∈ (feedLines text).dropWhile isBlankLine, '\n' ∉ line :=
    fun line member => oneLine_of_mem_feedLines (List.dropWhile_suffix _ |>.subset member)
  cases left : (feedLines text).dropWhile isBlankLine with
  | nil =>
      rw [left] at some
      exact absurd rfl some
  | cons line more =>
      have solid := List.head_dropWhile_not isBlankLine (l := feedLines text) (by simp [left])
      simp only [left, List.head_cons] at solid
      rw [left] at oneLine
      exact ⟨line, more, split_join (by simp) oneLine, solid⟩

end Compositor.Text

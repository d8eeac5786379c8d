import Compositor.Markup.Cell
import Compositor.Proofs.Text.Search

/-! The two scans of a header or footer cell, for emphasis and for placeholders, lose nothing:
written as they were read, the parts that they find are the text. -/

namespace Compositor.Markup

/-! Emphasis. -/

def Run.source (delimiter : Text) : Run → Text
  | .literal text => text
  | .span content => delimiter ++ content ++ delimiter

theorem closeSpan?_eq_some {delimiter text content rest : Text}
    (closed : closeSpan? delimiter text = some (content, rest)) :
    ∃ first behind more, text = first :: behind ∧ content = first :: more ∧
      Text.cut? delimiter behind = some (more, rest) ∧ '\n' ∉ content := by
  cases text with
  | nil => cases closed
  | cons first behind =>
      simp only [closeSpan?] at closed
      split at closed
      next more after found =>
        split at closed
        · cases closed
        next oneLine =>
          cases closed
          exact ⟨first, behind, more, rfl, rfl, found, by simpa using oneLine⟩
      next => cases closed

theorem closeSpan?_eq_append {delimiter text content rest : Text}
    (found : closeSpan? delimiter text = some (content, rest)) :
    text = content ++ delimiter ++ rest := by
  obtain ⟨first, behind, more, rfl, rfl, cutFound, -⟩ := closeSpan?_eq_some found
  rw [Text.cut?_eq_append cutFound]
  rfl

theorem consLiteral_flatMap {α : Type} {write : Run → List α}
    (splits : ∀ character text, write (.literal (character :: text)) =
      write (.literal [character]) ++ write (.literal text))
    (character : Char) (runs : List Run) :
    (consLiteral character runs).flatMap write =
      write (.literal [character]) ++ runs.flatMap write := by
  unfold consLiteral
  split
  next text runs => rw [List.flatMap_cons, List.flatMap_cons, splits, List.append_assoc]
  next => rw [List.flatMap_cons]

theorem consLiteral_source (delimiter : Text) (character : Char) (runs : List Run) :
    (consLiteral character runs).flatMap (Run.source delimiter) =
      character :: runs.flatMap (Run.source delimiter) :=
  consLiteral_flatMap (fun _ _ => rfl) character runs

/-! The first character of a text: no delimiter stands there, or one that opens a span, or one that
does not. -/

section
variable {delimiter inner rest : Text} {character : Char}

theorem runs_pass (missing : Text.stripStart? delimiter (character :: rest) = none) :
    runs delimiter (character :: rest) = consLiteral character (runs delimiter rest) := by
  rw [runs]
  split
  next => rfl
  next found =>
    rw [missing] at found
    cases found

theorem runs_open {content after : Text}
    (opened : Text.stripStart? delimiter (character :: rest) = some inner)
    (closed : closeSpan? delimiter inner = some (content, after)) :
    runs delimiter (character :: rest) = .span content :: runs delimiter after := by
  rw [runs]
  split
  next missing =>
    rw [opened] at missing
    cases missing
  next found =>
    rw [opened] at found
    cases found
    split
    next again =>
      rw [closed] at again
      cases again
      rfl
    next missing =>
      rw [closed] at missing
      cases missing

theorem runs_lone (opened : Text.stripStart? delimiter (character :: rest) = some inner)
    (unclosed : closeSpan? delimiter inner = none) :
    runs delimiter (character :: rest) = consLiteral character (runs delimiter rest) := by
  rw [runs]
  split
  next => rfl
  next found =>
    rw [opened] at found
    cases found
    split
    next again =>
      rw [unclosed] at again
      cases again
    next => rfl

end

theorem runs_source (delimiter text : Text) :
    (runs delimiter text).flatMap (Run.source delimiter) = text := by
  fun_induction runs delimiter text with
  | case1 => rfl
  | case2 character rest noDelimiter ih => rw [consLiteral_source, ih]
  | case3 character rest inner opened content after closed ih =>
      rw [List.flatMap_cons, ih, Run.source, Text.stripStart?_eq_some.mp opened,
        closeSpan?_eq_append closed]
      simp only [List.append_assoc]
  | case4 character rest inner opened notClosed ih => rw [consLiteral_source, ih]

/-! Placeholders. -/

theorem logoSegment?_source {text : Text} {segment : Segment}
    (found : logoSegment? text = some segment) : segment.source = inBraces ("logo:" ++ text) := by
  unfold logoSegment? at found
  split at found
  next =>
    split at found
    · cases found
    · cases found
      rfl
  next path height cutFound =>
    split at found
    · cases found
    · cases found
      rw [Text.cut?_eq_append cutFound, Segment.source]
      simp only [List.append_assoc]

theorem placeholder?_source {text : Text} {segment : Segment}
    (found : placeholder? text = some segment) : segment.source = inBraces text := by
  unfold placeholder? at found
  split at found
  next page =>
    cases found
    rw [page]
    rfl
  split at found
  next totalPages =>
    cases found
    rw [totalPages]
    rfl
  split at found
  next date =>
    cases found
    rw [date]
    rfl
  split at found
  next format stripped =>
    split at found
    · cases found
    · cases found
      rw [Text.stripStart?_eq_some.mp stripped]
      rfl
  next =>
    split at found
    next logo stripped =>
      rw [Text.stripStart?_eq_some.mp stripped]
      exact logoSegment?_source found
    next => cases found

theorem readPlaceholder?_source {text rest : Text} {segment : Segment}
    (found : readPlaceholder? text = some (segment, rest)) :
    '{' :: text = segment.source ++ rest := by
  unfold readPlaceholder? at found
  split at found
  next inner after cutFound =>
    simp only [Option.map_eq_some_iff, Prod.mk.injEq] at found
    obtain ⟨_, isPlaceholder, rfl, rfl⟩ := found
    rw [placeholder?_source isPlaceholder, Text.cut?_eq_append cutFound]
    rfl
  next => cases found

theorem consSegment_source (character : Char) (segments : List Segment) :
    (consSegment character segments).flatMap Segment.source =
      character :: segments.flatMap Segment.source := by
  unfold consSegment
  split <;> rfl

theorem tokenize_source (text : Text) : (tokenize text).flatMap Segment.source = text := by
  fun_induction tokenize text with
  | case1 => rfl
  | case2 character rest segment after found ih =>
      split at found
      next brace => rw [List.flatMap_cons, ih, brace, readPlaceholder?_source found]
      next => cases found
  | case3 character rest missing ih => rw [consSegment_source, ih]

end Compositor.Markup

import Compositor.Document.Frontmatter
import Compositor.Markdown.FrontMatter
import Compositor.Proofs.Text.BlankLines

/-! What is left of frontmatter without its delimiters. Blank lines before the body and white space
behind it go, and so does the indentation of its first line: that line then stands further to the
left than it did among the others. -/

namespace Compositor.Markdown

open Text

def enclosed (body : Text) : Text :=
  ['-', '-', '-', '\n'] ++ body ++ ['\n', '-', '-', '-', '\n']

theorem dropDashes_delimiter (text : Text) :
    dropDashes ('-' :: '-' :: '-' :: '\n' :: text) = '\n' :: text := rfl

theorem feed_isBlank : ∀ character ∈ ['\n'], isBlank character = true :=
  List.forall_mem_singleton.mpr rfl

theorem trim_enclosed (body : Text) :
    trim (enclosed body) = ['-', '-', '-', '\n'] ++ body ++ ['\n', '-', '-', '-'] := by
  have whole : enclosed body =
      (['-', '-', '-', '\n'] ++ body ++ ['\n', '-', '-', '-']) ++ ['\n'] := by
    simp [enclosed]
  rw [whole]
  refine trim_append_blank ⟨'-', _, rfl, by decide⟩ ?_ feed_isBlank
  exact ⟨['-', '-', '-', '\n'] ++ body ++ ['\n', '-', '-'], '-', by simp, by decide⟩

theorem dropDashesEnd_delimiter (text : Text) :
    dropDashesEnd (text ++ ['\n', '-', '-', '-']) = text ++ ['\n'] := by
  rw [dropDashesEnd, List.reverse_append]
  change (dropDashes ('-' :: '-' :: '-' :: '\n' :: text.reverse)).reverse = _
  rw [dropDashes_delimiter]
  simp

theorem stripDelimiters_enclosed (body : Text) : stripDelimiters (enclosed body) = trim body := by
  have opened : dropDashes (trim (enclosed body)) =
      ['\n'] ++ body ++ ['\n', '-', '-', '-'] := by
    rw [trim_enclosed]
    exact dropDashes_delimiter (body ++ ['\n', '-', '-', '-'])
  rw [stripDelimiters, opened, dropDashesEnd_delimiter, trim_endFirst, trimEnd_append feed_isBlank,
    ← trim_endFirst, trim, trimStart_append feed_isBlank, ← trim]

/-- What is left is the body without the blank lines before it and the white space behind it, except
for the indentation of its first line. So the body is kept exactly if there is none. -/
theorem stripDelimiters_body (body : Text) :
    let kept := dropBlankLines (trimEnd body)
    (∃ first more, feedLines kept = first :: more ∧
      feedLines (stripDelimiters (enclosed body)) = trimStart first :: more) ∧
      (stripDelimiters (enclosed body) = kept ↔ indentation kept = []) := by
  intro kept
  have left : stripDelimiters (enclosed body) = trimStart kept := by
    rw [stripDelimiters_enclosed, trim_endFirst, ← trimStart_dropBlankLines]
  rw [left]
  refine ⟨?_, trimStart_eq_self_iff⟩
  by_cases none : kept = []
  · rw [none]
    exact ⟨[], [], rfl, rfl⟩
  · obtain ⟨first, more, whole, solid⟩ := feedLines_dropBlankLines none
    exact ⟨first, more, whole, feedLines_trimStart whole solid⟩

theorem stripDelimiters_lostIndentation :
    let body : Text := "  toc_depth: 1\n  font: serif"
    (∀ line ∈ feedLines body, line ≠ ['-', '-', '-']) ∧
      stripDelimiters (enclosed body) = "toc_depth: 1\n  font: serif" ∧
      dropBlankLines (trimEnd body) = body ∧
      Frontmatter.ofText (some (stripDelimiters (enclosed body))) = {} ∧
      Frontmatter.ofText (some body) = { tocDepth := 1, font := some "serif" } := by
  decide +kernel

end Compositor.Markdown

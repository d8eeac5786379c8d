import Compositor.Markdown.Tree
import Compositor.Text.Punctuation

/-! Runs of delimiters, and the emphasis that pairs of them make. -/

namespace Compositor.Markdown

structure DelimiterRun where
  mark : Char
  count : Nat
  length : Nat
  opens : Bool
  closes : Bool

inductive Part where
  | done (content : Inline)
  | delimiters (run : DelimiterRun)

namespace DelimiterRun

def text (run : DelimiterRun) : Inline := .text (List.replicate run.count run.mark)

def use (used : Nat) (run : DelimiterRun) : DelimiterRun := { run with count := run.count - used }

/-- A run opens emphasis if no blank follows it and closes it if none precedes it; punctuation on
that side must have a blank or punctuation on the other. Underscores do not work inside words. -/
def ofContext (mark : Char) (length : Nat) (before after : Char) : DelimiterRun :=
  let isOuter (character : Char) : Bool := Text.isBlank character || Text.isPunctuation character
  let leftFlanking :=
    !Text.isBlank after && (!Text.isPunctuation after || isOuter before)
  let rightFlanking :=
    !Text.isBlank before && (!Text.isPunctuation before || isOuter after)
  let (opens, closes) :=
    if mark = '_' then
      (leftFlanking && (!rightFlanking || Text.isPunctuation before),
        rightFlanking && (!leftFlanking || Text.isPunctuation after))
    else (leftFlanking, rightFlanking)
  { mark, count := length, length, opens, closes }

/-- Where one of two runs could both open and close, their lengths must not add up to a multiple of
three, unless both are such multiples. -/
def matchesOpener (closer opener : DelimiterRun) : Bool :=
  opener.opens && opener.mark == closer.mark &&
    !((closer.opens || opener.closes) && (opener.length + closer.length) % 3 == 0 &&
      !(opener.length % 3 == 0 && closer.length % 3 == 0))

end DelimiterRun

def Part.content : Part → Inline
  | .done content => content
  | .delimiters run => run.text

structure OpenerFound where
  opener : DelimiterRun
  inner : List Inline
  before : List Part

def findOpener? (closer : DelimiterRun) : (inner : List Inline) → (before : List Part) →
    Option OpenerFound
  | _, [] => none
  | inner, .done content :: before => findOpener? closer (content :: inner) before
  | inner, .delimiters run :: before =>
      if closer.matchesOpener run then some ⟨run, inner, before⟩
      else findOpener? closer (run.text :: inner) before

def emphasisOf (mark : Char) (used : Nat) (children : List Inline) : Inline :=
  if mark = '~' then .strikethrough children
  else if used = 2 then .strong children
  else .emphasis children

/-- A run that may close emphasis, after the parts before it, last first. Tildes must pair in full:
a pair of unequal runs gives no parts, which ends the search for emphasis. `fuel` is at least the
number of characters left in the run. -/
def closeRun : (fuel : Nat) → DelimiterRun → (before : List Part) → Option (List Part)
  | 0, _, before => some before
  | fuel + 1, closer, before =>
      match findOpener? closer [] before with
      | none => some ((if closer.opens then .delimiters closer else .done closer.text) :: before)
      | some found =>
          let used := if 2 ≤ closer.count ∧ 2 ≤ found.opener.count then 2 else 1
          let opener := found.opener.use used
          let closer := closer.use used
          if closer.mark = '~' ∧ (opener.count ≠ closer.count ∨ 0 < opener.count) then none
          else
            let rest := if opener.count = 0 then found.before else .delimiters opener :: found.before
            let parts := .done (emphasisOf closer.mark used found.inner) :: rest
            if closer.count = 0 then some parts else closeRun fuel closer parts

def resolveParts : (before : List Part) → (parts : List Part) → List Inline
  | before, [] => (before.map Part.content).reverse
  | before, .done content :: parts => resolveParts (.done content :: before) parts
  | before, .delimiters run :: parts =>
      if run.closes then
        match closeRun run.count run before with
        | some before => resolveParts before parts
        | none => (before.map Part.content).reverse ++ run.text :: parts.map Part.content
      else resolveParts (.delimiters run :: before) parts

end Compositor.Markdown

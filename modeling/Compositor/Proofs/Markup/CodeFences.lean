import Compositor.Markup.Body
import Compositor.Proofs.Text.Search

/-! Raw literals around code. A raw literal ends at the first run of as many backticks as have opened
it. Inline code is written between single backticks and a code block between fences of three,
whatever the code holds, so the literal holds the code exactly if no run in it is that long and none
joins the opening one. -/

namespace Compositor.Markup

open Text

/-- The body of the raw literal at the start of a text, and what follows it. All backticks at the
start open it; two alone are an empty literal. -/
def readRaw? (text : Text) : Option (Text × Text) :=
  let opening := text.takeWhile (· == '`')
  let rest := text.dropWhile (· == '`')
  match opening.length with
  | 0 => none
  | 2 => some ([], rest)
  | _ => cut? opening rest

def fence : Text := ['`', '`', '`']

theorem head?_dropWhile (text : Text) : (text.dropWhile (· == '`')).head? ≠ some '`' := by
  have bound := List.head?_dropWhile_not (· == '`') text
  intro head
  rw [head] at bound
  cases bound

theorem readRaw?_eq_some {text body after : Text} (read : readRaw? text = some (body, after)) :
    let opening := text.takeWhile (· == '`')
    let rest := text.dropWhile (· == '`')
    opening.length = 2 ∧ body = [] ∧ after = rest ∨
      opening ≠ [] ∧ rest = body ++ opening ++ after := by
  unfold readRaw? at read
  dsimp only at read ⊢
  split at read
  next => cases read
  next pair =>
    cases read
    exact .inl ⟨pair, rfl, rfl⟩
  next more _ =>
    refine .inr ⟨?_, cut?_eq_append read⟩
    intro empty
    exact more (congrArg List.length empty)

theorem head?_readRaw? {text body after : Text} (read : readRaw? text = some (body, after)) :
    body.head? ≠ some '`' := by
  rcases readRaw?_eq_some read with ⟨-, rfl, -⟩ | ⟨-, shape⟩
  · simp
  · have first := head?_dropWhile text
    rw [shape] at first
    cases body with
    | nil => simp
    | cons character body => exact first

theorem opening_split {opening rest : Text}
    (backticks : ∀ character ∈ opening, (character == '`') = true)
    (closed : rest.head? ≠ some '`') :
    (opening ++ rest).takeWhile (· == '`') = opening ∧
      (opening ++ rest).dropWhile (· == '`') = rest := by
  rw [List.takeWhile_append_of_pos backticks, List.dropWhile_append_of_pos backticks]
  cases rest with
  | nil => simp
  | cons character rest =>
      have other : (character == '`') = false := by
        rw [beq_eq_false_iff_ne]
        rintro rfl
        exact closed rfl
      simp [other]

theorem readRaw?_single {rest : Text} (closed : rest.head? ≠ some '`') :
    readRaw? ('`' :: rest) = cut? ['`'] rest := by
  have single : ∀ character ∈ ['`'], (character == '`') = true := by simp
  obtain ⟨opening, behind⟩ := opening_split single closed
  rw [List.singleton_append] at opening behind
  rw [readRaw?, opening, behind]
  rfl

theorem readRaw?_fence {rest : Text} (closed : rest.head? ≠ some '`') :
    readRaw? (fence ++ rest) = cut? fence rest := by
  have backticks : ∀ character ∈ fence, (character == '`') = true := by simp [fence]
  obtain ⟨opening, behind⟩ := opening_split backticks closed
  rw [readRaw?, opening, behind]
  rfl

/-! Code blocks. -/

def closing : Text := ['\n', '`', '`', '`', '\n', '\n']

theorem codeFence_shape (language : Option Text) (code after : Text) :
    codeFence language code ++ after =
      fence ++ (language.getD [] ++ '\n' :: (code ++ (closing ++ after))) := by
  have opens : "```".toList = fence := rfl
  have feed : "\n".toList = ['\n'] := rfl
  have closes : "\n```\n\n".toList = closing := rfl
  unfold codeFence
  rw [opens, feed, closes]
  simp only [List.append_assoc, List.cons_append, List.nil_append]

theorem closing_eq (after : Text) :
    closing ++ after = '\n' :: (fence ++ ("\n\n" ++ after)) := rfl

theorem cut?_line {text before after : Text} (found : cut? fence text = some (before, after))
    (behind : Text) :
    cut? fence (text ++ '\n' :: behind) = some (before, after ++ '\n' :: behind) :=
  cut?_parted_before (by decide) (by decide) found behind

theorem cut?_nextLine {text : Text} (none : ¬ fence <:+: text) (behind : Text) :
    cut? fence (text ++ '\n' :: behind) =
      (cut? fence behind).map fun (before, after) => (text ++ '\n' :: before, after) :=
  cut?_parted_behind (by decide) (by decide) (cut?_eq_none_iff.mpr none) behind

section
variable {language : Option Text}

theorem readRaw?_language (closed : (language.getD []).head? ≠ some '`') (code after : Text) :
    readRaw? (codeFence language code ++ after) =
      cut? fence (language.getD [] ++ '\n' :: (code ++ (closing ++ after))) := by
  rw [codeFence_shape]
  refine readRaw?_fence ?_
  cases shape : language.getD [] with
  | nil => simp
  | cons character rest =>
      rw [shape] at closed
      exact closed

variable (closed : (language.getD []).head? ≠ some '`') (none : ¬ fence <:+: language.getD [])
include closed none

theorem readRaw?_codeFence {code : Text} (inner : ¬ fence <:+: code) (after : Text) :
    readRaw? (codeFence language code ++ after) =
      some (language.getD [] ++ '\n' :: (code ++ ['\n']), "\n\n" ++ after) := by
  rw [readRaw?_language closed, cut?_nextLine none, closing_eq, cut?_nextLine inner, cut?_self]
  rfl

/-- A fence within the code closes the literal, and the rest of the code is markup. -/
theorem readRaw?_innerFence {code body rest : Text} (found : cut? fence code = some (body, rest))
    (after : Text) :
    readRaw? (codeFence language code ++ after) =
      some (language.getD [] ++ '\n' :: body, rest ++ (closing ++ after)) := by
  rw [readRaw?_language closed, cut?_nextLine none, closing_eq, cut?_line found]
  rfl

end

theorem codeFence_delimited_iff (language : Option Text) (code after : Text) :
    readRaw? (codeFence language code ++ after) =
        some (language.getD [] ++ '\n' :: (code ++ ['\n']), "\n\n" ++ after) ↔
      (language.getD []).head? ≠ some '`' ∧ ¬ fence <:+: language.getD [] ∧ ¬ fence <:+: code := by
  constructor
  · intro delimited
    have closed : (language.getD []).head? ≠ some '`' := by
      have body := head?_readRaw? delimited
      cases shape : language.getD [] with
      | nil => simp
      | cons character rest =>
          rw [shape] at body
          exact body
    have none : ¬ fence <:+: language.getD [] := by
      rw [← cut?_eq_none_iff, Option.eq_none_iff_forall_ne_some]
      rintro ⟨body, rest⟩ found
      rw [readRaw?_language closed, cut?_line found, Option.some.injEq, Prod.mk.injEq] at delimited
      have within := congrArg List.length (cut?_eq_append found)
      have same := congrArg List.length delimited.1
      simp only [List.length_append, List.length_cons] at within same
      omega
    refine ⟨closed, none, ?_⟩
    rw [← cut?_eq_none_iff, Option.eq_none_iff_forall_ne_some]
    rintro ⟨body, rest⟩ found
    rw [readRaw?_innerFence closed none found, Option.some.injEq, Prod.mk.injEq] at delimited
    have within := congrArg List.length (cut?_eq_append found)
    have same := congrArg List.length delimited.1
    simp only [List.length_append, List.length_cons] at within same
    omega
  · rintro ⟨closed, none, inner⟩
    exact readRaw?_codeFence closed none inner after

/-! Inline code. -/

theorem inlineCode_shape (code after : Text) :
    inline (.inlineCode code) ++ after = '`' :: (code ++ '`' :: after) := by
  change "`".toList ++ code ++ "`".toList ++ after = _
  rw [List.append_assoc, List.append_assoc]
  rfl

theorem readRaw?_empty_iff (after : Text) :
    readRaw? ('`' :: '`' :: after) = some ([], after) ↔ after.head? ≠ some '`' := by
  constructor
  · intro read
    rcases readRaw?_eq_some read with ⟨-, -, rest⟩ | ⟨-, shape⟩
    · rw [rest]
      exact head?_dropWhile _
    · have first := head?_dropWhile ('`' :: '`' :: after)
      rw [shape, List.takeWhile_cons_of_pos rfl] at first
      exact absurd rfl first
  · intro closed
    have backticks : ∀ character ∈ ['`', '`'], (character == '`') = true := by simp
    obtain ⟨opening, behind⟩ := opening_split backticks closed
    have text : ['`', '`'] ++ after = '`' :: '`' :: after := rfl
    rw [text] at opening behind
    rw [readRaw?, opening, behind]
    rfl

theorem inlineCode_delimited_iff (code after : Text) :
    readRaw? (inline (.inlineCode code) ++ after) = some (code, after) ↔
      '`' ∉ code ∧ (code = [] → after.head? ≠ some '`') := by
  rw [inlineCode_shape]
  cases code with
  | nil => simp [readRaw?_empty_iff]
  | cons first code =>
      have filled : first :: code = [] → after.head? ≠ some '`' := by
        intro empty
        cases empty
      constructor
      · intro read
        have closed := head?_readRaw? read
        have behind : ((first :: code) ++ '`' :: after).head? ≠ some '`' := closed
        rw [readRaw?_single behind] at read
        refine ⟨?_, filled⟩
        intro member
        obtain ⟨before, rest, shape⟩ := List.append_of_mem member
        have occurs : (first :: code) ++ '`' :: after =
            before ++ ['`'] ++ (rest ++ '`' :: after) := by
          rw [shape]
          simp
        have bound := cut?_first read occurs
        have length := congrArg List.length shape
        simp only [List.length_cons, List.length_append] at bound length
        omega
      · rintro ⟨without, -⟩
        have closed : ((first :: code) ++ '`' :: after).head? ≠ some '`' := by
          intro head
          cases head
          exact without (.head _)
        rw [readRaw?_single closed]
        exact cut?_character without after

/-- The literals of a code block and of inline code hold exactly the code, whatever follows them, if
and only if no run of backticks in the code or its language is as long as the opening one and none
joins it. Otherwise an inner fence closes the block, and the rest of the code is markup. -/
theorem code_delimited (setting : Setting) (titleMode : Bool) (progress : Progress)
    {language : Option Text} (notDiagram : language ≠ some diagramLanguage) (code after : Text) :
    let tag := language.getD []
    let literal := (block setting titleMode (.codeBlock language code) progress).1
    (readRaw? (literal ++ after) = some (tag ++ '\n' :: (code ++ ['\n']), "\n\n" ++ after) ↔
        tag.head? ≠ some '`' ∧ ¬ fence <:+: tag ∧ ¬ fence <:+: code) ∧
      (tag.head? ≠ some '`' ∧ ¬ fence <:+: tag →
        ∀ body rest, cut? fence code = some (body, rest) →
          readRaw? (literal ++ after) = some (tag ++ '\n' :: body, rest ++ (closing ++ after))) ∧
      (readRaw? (inline (.inlineCode code) ++ after) = some (code, after) ↔
        '`' ∉ code ∧ (code = [] → after.head? ≠ some '`')) := by
  intro tag literal
  have written : literal = codeFence language code := by
    change (codeBlock setting language code progress.cleared).1 = _
    rw [codeBlock, if_neg notDiagram]
  rw [written]
  refine ⟨codeFence_delimited_iff language code after, ?_, inlineCode_delimited_iff code after⟩
  rintro ⟨closed, none⟩ body rest found
  exact readRaw?_innerFence closed none found after

theorem code_delimited_rust :
    let code : Text := "let x = `1`;"
    let literal := (block {} false (.codeBlock (some "rust") code) {}).1
    some "rust".toList ≠ some diagramLanguage ∧ ¬ fence <:+: code ∧
      readRaw? (literal ++ "After") = some ("rust\nlet x = `1`;\n".toList, "\n\nAfter".toList) := by
  intro code literal
  have notDiagram : some "rust".toList ≠ some diagramLanguage := by decide
  have plain : ¬ fence <:+: code := by decide
  have delimited := (code_delimited {} false {} notDiagram code "After").1.mpr
    ⟨by decide, by decide, plain⟩
  exact ⟨notDiagram, plain, delimited⟩

theorem code_cutShort :
    readRaw? (block {} false (.codeBlock none "```") {}).1 =
        some ("\n".toList, "\n```\n\n".toList) ∧
      readRaw? (inline (.inlineCode "a`b")) = some ("a".toList, "b`".toList) := by
  decide

end Compositor.Markup

import Compositor.Text.Basic

/-! Light emphasis in header and footer cells: two asterisks for bold, one for italic. -/

namespace Compositor.Markup

inductive Run where
  | literal (text : Text)
  | span (content : Text)
  deriving DecidableEq

/-- The span at the start of a text that follows an opening delimiter: at least one character,
no line feed, up to the nearest delimiter. Also what follows it. -/
def closeSpan? (delimiter : Text) : (text : Text) → Option (Text × Text)
  | [] => none
  | first :: text =>
      match Text.cut? delimiter text with
      | some (content, rest) =>
          if (first :: content).contains '\n' then none else some (first :: content, rest)
      | none => none

theorem cut?_length {piece text before after : Text}
    (found : Text.cut? piece text = some (before, after)) :
    text.length = before.length + piece.length + after.length := by
  induction text generalizing before with
  | nil =>
      simp only [Text.cut?, Option.map_eq_some_iff, Prod.mk.injEq] at found
      obtain ⟨rest, found, rfl, rfl⟩ := found
      have := congrArg List.length (Text.stripStart?_eq_some.1 found)
      simp only [List.length_append, List.length_nil] at this ⊢
      omega
  | cons character text ih =>
      simp only [Text.cut?] at found
      split at found
      next rest stripped =>
        simp only [Option.some.injEq, Prod.mk.injEq] at found
        obtain ⟨rfl, rfl⟩ := found
        have := congrArg List.length (Text.stripStart?_eq_some.1 stripped)
        simp only [List.length_append, List.length_nil] at this ⊢
        omega
      next =>
        simp only [Option.map_eq_some_iff, Prod.mk.injEq, Prod.exists] at found
        obtain ⟨inner, rest, found, rfl, rfl⟩ := found
        have := ih found
        simp only [List.length_cons]
        omega

theorem closeSpan?_length {delimiter text content rest : Text}
    (found : closeSpan? delimiter text = some (content, rest)) : rest.length < text.length := by
  cases text with
  | nil => simp [closeSpan?] at found
  | cons first text =>
      simp only [closeSpan?] at found
      split at found
      next inner after cutFound =>
        split at found
        next => simp at found
        next =>
          simp only [Option.some.injEq, Prod.mk.injEq] at found
          obtain ⟨_, rfl⟩ := found
          have := cut?_length cutFound
          simp only [List.length_cons]
          omega
      next => simp at found

def consLiteral (character : Char) : List Run → List Run
  | .literal text :: runs => .literal (character :: text) :: runs
  | runs => .literal [character] :: runs

def runs (delimiter : Text) (text : Text) : List Run :=
  match text with
  | [] => []
  | character :: rest =>
      match _opened : Text.stripStart? delimiter (character :: rest) with
      | none => consLiteral character (runs delimiter rest)
      | some inner =>
          match _closed : closeSpan? delimiter inner with
          | some (content, after) => .span content :: runs delimiter after
          | none => consLiteral character (runs delimiter rest)
  termination_by text.length
  decreasing_by
    · simp
    · have := closeSpan?_length _closed
      have := congrArg List.length (Text.stripStart?_eq_some.1 _opened)
      simp only [List.length_append] at this
      omega
    · simp

def boldStandIn (index : Nat) : Text :=
  "\x00BOLD\x00" ++ Text.ofNat index ++ "\x00BOLD\x00"

def setBoldAside : (index : Nat) → List Run → Text × List Text
  | _, [] => ([], [])
  | index, .literal text :: runs =>
      let (rest, contents) := setBoldAside index runs
      (text ++ rest, contents)
  | index, .span content :: runs =>
      let (rest, contents) := setBoldAside (index + 1) runs
      (boldStandIn index ++ rest, content :: contents)

def italicRun : Run → Text
  | .literal text => text
  | .span content => "_" ++ content ++ "_"

def restoreBold : (index : Nat) → (contents : List Text) → Text → Text
  | _, [], text => text
  | index, content :: contents, text =>
      restoreBold (index + 1) contents
        (Text.replaceAll (boldStandIn index) ("*" ++ content ++ "*") text)

/-- Bold and italic in their markup. Bold spans are set aside first, so that no italic span
starts or ends inside one. -/
def emphasize (text : Text) : Text :=
  let (withoutBold, contents) := setBoldAside 0 (runs "**" text)
  restoreBold 0 contents ((runs "*" withoutBold).flatMap italicRun)

end Compositor.Markup

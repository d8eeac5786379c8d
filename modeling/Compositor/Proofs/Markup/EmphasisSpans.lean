import Compositor.Proofs.Markup.Scans
import Compositor.Proofs.Text.Spans

/-! The two passes of the emphasis in a cell as divisions into spans. The second pass runs on a text
with stand-ins for the bold spans. A stand-in holds neither an asterisk nor a line feed, so the pass
divides the text as if each stand-in were a single symbol. -/

namespace Compositor.Markup

open Text

/-! A pass over characters. -/

theorem closeSpan?_eq_some_iff {delimiter inner content rest : Text} :
    closeSpan? delimiter inner = some (content, rest) ↔
      Opens delimiter '\n' (delimiter ++ inner) content rest := by
  constructor
  · intro closed
    have shape := closeSpan?_eq_append closed
    obtain ⟨first, text, before, rfl, rfl, found, oneLine⟩ := closeSpan?_eq_some closed
    refine ⟨by rw [shape]; simp only [List.append_assoc], List.cons_ne_nil _ _, oneLine, ?_⟩
    intro other behind filled split
    simp only [List.append_assoc, List.append_cancel_left_eq] at split
    cases other with
    | nil => exact absurd rfl filled
    | cons character other =>
        rw [List.cons_append, List.cons.injEq, ← List.append_assoc] at split
        have bound := cut?_first found split.2
        simp only [List.length_cons]
        omega
  · intro opens
    obtain ⟨shape, filled, oneLine, shortest⟩ := opens
    simp only [List.append_assoc, List.append_cancel_left_eq] at shape shortest
    cases content with
    | nil => exact absurd rfl filled
    | cons first content =>
        rw [shape, List.cons_append, closeSpan?]
        cases found : cut? delimiter (content ++ (delimiter ++ rest)) with
        | none =>
            rw [cut?_eq_none_iff] at found
            exact absurd ⟨content, rest, List.append_assoc _ _ _⟩ found
        | some both =>
            obtain ⟨before, after⟩ := both
            have cutShape := cut?_eq_append found
            have below := cut?_first found (List.append_assoc content delimiter rest).symm
            have split : inner = first :: before ++ (delimiter ++ after) := by
              rw [shape, List.cons_append, cutShape]
              simp only [List.append_assoc, List.cons_append]
            have above := shortest (first :: before) after (List.cons_ne_nil _ _) split
            simp only [List.length_cons, Nat.add_le_add_iff_right] at above
            rw [List.append_assoc] at cutShape
            obtain ⟨rfl, behind⟩ := List.append_inj cutShape (by omega)
            obtain rfl := List.append_cancel_left behind
            simp only [List.contains_eq_mem, decide_eq_true_eq, if_neg oneLine]

def Run.parts : Run → List (Portion Char)
  | .literal text => text.map .single
  | .span content => [.span content]

theorem consLiteral_parts (character : Char) (runs : List Run) :
    (consLiteral character runs).flatMap Run.parts =
      .single character :: runs.flatMap Run.parts :=
  consLiteral_flatMap (fun _ _ => rfl) character runs

theorem runs_divide (delimiter text : Text) :
    DividesInto delimiter '\n' text ((runs delimiter text).flatMap Run.parts) := by
  fun_induction runs delimiter text with
  | case1 => exact .nil
  | case2 character rest noDelimiter ih =>
      rw [consLiteral_parts]
      refine .single ?_ ih
      intro content behind opens
      have shape := opens.shape
      simp only [List.append_assoc] at shape
      rw [stripStart?_eq_some.mpr shape] at noDelimiter
      cases noDelimiter
  | case3 character rest inner opened content after closed ih =>
      rw [List.flatMap_cons]
      refine .span ?_ ih
      rw [stripStart?_eq_some.mp opened]
      exact closeSpan?_eq_some_iff.mp closed
  | case4 character rest inner opened notClosed ih =>
      rw [consLiteral_parts]
      refine .single ?_ ih
      intro content behind opens
      rw [stripStart?_eq_some.mp opened] at opens
      rw [closeSpan?_eq_some_iff.mpr opens] at notClosed
      cases notClosed

/-! A pass over symbols: characters, and whole bold spans. -/

abbrev Symbol := Char ⊕ Text

def Portion.symbol : Portion Char → Symbol
  | .single character => .inl character
  | .span content => .inr content

/-- A text whose bold spans are stand-ins, numbered from `index` on. -/
def spell : (index : Nat) → List Symbol → Text
  | _, [] => []
  | index, .inl character :: symbols => character :: spell index symbols
  | index, .inr _ :: symbols => boldStandIn index ++ spell (index + 1) symbols

def boldContents (symbols : List Symbol) : List Text := symbols.filterMap Sum.getRight?

theorem spell_literal (index : Nat) (text : Text) (symbols : List Symbol) :
    spell index (text.map .inl ++ symbols) = text ++ spell index symbols := by
  induction text with
  | nil => rfl
  | cons character text ih => exact congrArg (character :: ·) ih

theorem boldContents_literal (text : Text) (symbols : List Symbol) :
    boldContents (text.map .inl ++ symbols) = boldContents symbols := by
  induction text with
  | nil => rfl
  | cons character text ih => exact ih

theorem setBoldAside_eq (index : Nat) (runs : List Run) :
    let symbols := (runs.flatMap Run.parts).map Portion.symbol
    setBoldAside index runs = (spell index symbols, boldContents symbols) := by
  intro symbols
  induction runs generalizing index with
  | nil => rfl
  | cons run runs ih =>
      cases run with
      | span content =>
          simp only [setBoldAside, ih]
          rfl
      | literal text =>
          have shape : symbols = text.map .inl ++ (runs.flatMap Run.parts).map Portion.symbol := by
            simp only [symbols, List.flatMap_cons, Run.parts, List.map_append, List.map_map]
            rfl
          simp only [setBoldAside, ih, shape, spell_literal, boldContents_literal]

theorem spell_append (index : Nat) (first second : List Symbol) :
    spell index (first ++ second) =
      spell index first ++ spell (index + (boldContents first).length) second := by
  induction first generalizing index with
  | nil => rfl
  | cons symbol first ih =>
      cases symbol with
      | inl character => exact congrArg (character :: ·) (ih index)
      | inr content =>
          have next : index + (boldContents (.inr content :: first)).length =
              index + 1 + (boldContents first).length := by
            change index + ((boldContents first).length + 1) = _
            omega
          rw [List.cons_append, spell, spell, ih, next, List.append_assoc]

theorem isDigit_of_mem_ofNat {number : Nat} {digit : Char} (member : digit ∈ ofNat number) :
    digit.isDigit = true :=
  Nat.isDigit_of_mem_toDigits (by decide) (Nat.le_refl 10) member

theorem notMem_boldStandIn {character : Char} (noMark : character ∉ ("\x00BOLD\x00" : Text))
    (noDigit : character.isDigit = false) (index : Nat) : character ∉ boldStandIn index := by
  intro member
  unfold boldStandIn at member
  rcases List.mem_append.mp member with before | mark
  · rcases List.mem_append.mp before with mark | number
    · exact noMark mark
    · rw [isDigit_of_mem_ofNat number] at noDigit
      cases noDigit
  · exact noMark mark

theorem star_notMem_boldStandIn (index : Nat) : '*' ∉ boldStandIn index :=
  notMem_boldStandIn (by decide) rfl index

theorem feed_notMem_boldStandIn (index : Nat) : '\n' ∉ boldStandIn index :=
  notMem_boldStandIn (by decide) rfl index

theorem boldStandIn_ne_nil (index : Nat) : boldStandIn index ≠ [] := by
  intro empty
  unfold boldStandIn at empty
  exact absurd (List.append_eq_nil_iff.mp empty).2 (by decide)

theorem feed_mem_spell_iff {index : Nat} {symbols : List Symbol} :
    '\n' ∈ spell index symbols ↔ .inl '\n' ∈ symbols := by
  induction symbols generalizing index with
  | nil => simp [spell]
  | cons symbol symbols ih =>
      cases symbol with
      | inl character => simp [spell, ih]
      | inr content => simp [spell, ih, feed_notMem_boldStandIn]

theorem spell_eq_nil_iff {index : Nat} {symbols : List Symbol} :
    spell index symbols = [] ↔ symbols = [] := by
  cases symbols with
  | nil => simp [spell]
  | cons symbol symbols =>
      cases symbol with
      | inl character => simp [spell]
      | inr content => simp [spell, boldStandIn_ne_nil]

theorem spell_eq_star {index : Nat} {symbols : List Symbol} {before after : Text}
    (shape : spell index symbols = before ++ '*' :: after) :
    ∃ first second, symbols = first ++ .inl '*' :: second ∧ before = spell index first := by
  induction symbols generalizing index before with
  | nil => simp [spell] at shape
  | cons symbol symbols ih =>
      cases symbol with
      | inl character =>
          rw [spell] at shape
          cases before with
          | nil =>
              rw [List.nil_append, List.cons.injEq] at shape
              exact ⟨[], symbols, by rw [shape.1]; rfl, rfl⟩
          | cons head before =>
              rw [List.cons_append, List.cons.injEq] at shape
              obtain ⟨rfl, rest⟩ := shape
              obtain ⟨first, second, rfl, rfl⟩ := ih rest
              exact ⟨.inl character :: first, second, rfl, rfl⟩
      | inr content =>
          rw [spell] at shape
          -- The asterisk stands behind the stand-in, which holds none.
          rcases List.append_eq_append_iff.mp shape with ⟨inner, rfl, rest⟩ | ⟨inner, standIn, rest⟩
          · obtain ⟨first, second, rfl, rfl⟩ := ih rest
            exact ⟨.inr content :: first, second, rfl, rfl⟩
          · cases inner with
            | nil =>
                rw [List.append_nil] at standIn
                have atStart : spell (index + 1) symbols = [] ++ '*' :: after := rest.symm
                obtain ⟨first, second, rfl, empty⟩ := ih atStart
                refine ⟨.inr content :: first, second, rfl, ?_⟩
                rw [spell, ← empty, List.append_nil, standIn]
            | cons head inner =>
                rw [List.cons_append, List.cons.injEq] at rest
                have member : '*' ∈ boldStandIn index := by
                  rw [standIn, rest.1]
                  simp
                exact absurd member (star_notMem_boldStandIn index)

def star : Text := "*"

abbrev OpensItalic (symbols content rest : List Symbol) : Prop :=
  Opens [.inl '*'] (.inl '\n') symbols content rest

theorem spell_star (index : Nat) (first second : List Symbol) :
    spell index (first ++ .inl '*' :: second) =
      spell index first ++ '*' :: spell (index + (boldContents first).length) second := by
  rw [spell_append, spell]

theorem opens_spell {index : Nat} {symbols content rest : List Symbol}
    (opens : OpensItalic symbols content rest) :
    Opens star '\n' (spell index symbols) (spell index content)
      (spell (index + (boldContents content).length) rest) := by
  obtain ⟨shape, filled, oneLine, shortest⟩ := opens
  simp only [List.append_assoc, List.cons_append, List.nil_append] at shape shortest
  subst shape
  refine ⟨?_, by rwa [ne_eq, spell_eq_nil_iff], by rwa [feed_mem_spell_iff], ?_⟩
  · rw [spell, spell_star]
    simp [star]
  · intro other behind otherFilled split
    simp only [star, String.reduceToList, spell, List.append_assoc, List.cons_append,
      List.nil_append, List.cons.injEq, true_and] at split
    obtain ⟨first, second, symbolShape, rfl⟩ := spell_eq_star split
    have firstFilled : first ≠ [] := by rwa [ne_eq, ← @spell_eq_nil_iff index]
    have bound := shortest first second firstFilled (congrArg (.inl '*' :: ·) symbolShape)
    obtain ⟨inner, rfl⟩ : content <+: first := by
      exact List.prefix_of_prefix_length_le ⟨_, rfl⟩ ⟨_, symbolShape.symm⟩ bound
    rw [spell_append, List.length_append]
    omega

theorem of_opens_spell {index : Nat} {symbols : List Symbol} {content rest : Text}
    (opens : Opens star '\n' (spell index (.inl '*' :: symbols)) content rest) :
    ∃ content rest, OpensItalic (.inl '*' :: symbols) content rest := by
  obtain ⟨shape, filled, oneLine, shortest⟩ := opens
  simp only [star, String.reduceToList, spell, List.append_assoc, List.cons_append,
    List.nil_append, List.cons.injEq, true_and] at shape shortest
  obtain ⟨first, second, rfl, rfl⟩ := spell_eq_star shape
  rw [ne_eq, spell_eq_nil_iff] at filled
  rw [feed_mem_spell_iff] at oneLine
  refine ⟨first, second, by simp, filled, oneLine, ?_⟩
  intro other behind otherFilled split
  simp only [List.append_assoc, List.cons_append, List.nil_append, List.cons.injEq,
    true_and] at split
  have textFilled : spell index other ≠ [] := by rwa [ne_eq, spell_eq_nil_iff]
  have bound := shortest _ _ textFilled (by rw [split, spell_star])
  by_contra longer
  obtain ⟨inner, rfl⟩ : other <+: first := by
    exact List.prefix_of_prefix_length_le ⟨_, split.symm⟩ ⟨_, rfl⟩ (by omega)
  -- A longer piece of symbols is a longer text.
  rw [spell_append, List.length_append] at bound
  have empty : spell (index + (boldContents other).length) inner = [] :=
    List.eq_nil_of_length_eq_zero (by omega)
  rw [spell_eq_nil_iff] at empty
  rw [empty, List.append_nil] at longer
  exact longer (Nat.le_refl _)

def Portion.italic : Portion Symbol → List Symbol
  | .single symbol => [symbol]
  | .span content => .inl '_' :: content ++ [.inl '_']

theorem consLiteral_italic (character : Char) (runs : List Run) :
    (consLiteral character runs).flatMap italicRun = character :: runs.flatMap italicRun :=
  consLiteral_flatMap (fun _ _ => rfl) character runs

theorem runs_other {character : Char} (other : character ≠ '*') (rest : Text) :
    (runs star (character :: rest)).flatMap italicRun =
      character :: (runs star rest).flatMap italicRun := by
  have noStar : stripStart? star (character :: rest) = none :=
    stripStart?_other (by decide) (by simpa [star] using other) rest
  rw [runs_pass noStar, consLiteral_italic]

theorem runs_front {front : Text} (noStar : '*' ∉ front) (behind : Text) :
    (runs star (front ++ behind)).flatMap italicRun =
      front ++ (runs star behind).flatMap italicRun := by
  induction front with
  | nil => rfl
  | cons character front ih =>
      have other : character ≠ '*' := by
        rintro rfl
        exact noStar (.head _)
      rw [List.cons_append, runs_other other, ih fun member => noStar (.tail _ member)]
      rfl

theorem runs_span {inner content after : Text}
    (closed : closeSpan? star inner = some (content, after)) :
    runs star ('*' :: inner) = .span content :: runs star after :=
  runs_open (stripStart?_append star inner) closed

theorem runs_loneStar {inner : Text} (closed : closeSpan? star inner = none) :
    (runs star ('*' :: inner)).flatMap italicRun = '*' :: (runs star inner).flatMap italicRun := by
  have opened : stripStart? star ('*' :: inner) = some inner := stripStart?_append star inner
  rw [runs_lone opened closed, consLiteral_italic]

theorem runs_spell (index : Nat) (symbols : List Symbol) :
    ∃ parts, DividesInto [.inl '*'] (.inl '\n') symbols parts ∧
      (runs star (spell index symbols)).flatMap italicRun =
        spell index (parts.flatMap Portion.italic) := by
  -- A span takes several symbols at once, so the induction is on their number.
  generalize size : symbols.length = length
  induction length using Nat.strongRecOn generalizing index symbols with
  | ind length ih =>
      cases symbols with
      | nil =>
          refine ⟨[], .nil, ?_⟩
          rw [spell, runs]
          rfl
      | cons symbol symbols =>
          have shorter : symbols.length < length := by
            rw [← size]
            exact Nat.lt_succ_self _
          cases symbol with
          | inr content =>
              obtain ⟨parts, divides, markup⟩ := ih _ shorter (index + 1) symbols rfl
              refine ⟨.single (.inr content) :: parts, .single ?_ divides, ?_⟩
              · intro _ _ opens
                cases opens.shape
              · rw [spell, runs_front (star_notMem_boldStandIn index), markup]
                rfl
          | inl character =>
              by_cases isStar : character = '*'
              · subst isStar
                by_cases opens : ∃ content rest, OpensItalic (.inl '*' :: symbols) content rest
                · obtain ⟨content, rest, opens⟩ := opens
                  have shape := congrArg List.length opens.shape
                  simp only [List.length_append, List.length_cons, List.length_nil] at shape
                  obtain ⟨parts, divides, markup⟩ := ih rest.length (by omega)
                    (index + (boldContents content).length) rest rfl
                  have closed := closeSpan?_eq_some_iff.mpr (@opens_spell index _ _ _ opens)
                  refine ⟨.span content :: parts, .span opens divides, ?_⟩
                  rw [spell, runs_span closed, List.flatMap_cons, markup, List.flatMap_cons,
                    Portion.italic, List.append_assoc, List.cons_append, spell, spell_append,
                    List.singleton_append, spell]
                  simp [italicRun]
                · obtain ⟨parts, divides, markup⟩ := ih _ shorter index symbols rfl
                  refine ⟨.single (.inl '*') :: parts, .single ?_ divides, ?_⟩
                  · intro content rest found
                    exact opens ⟨content, rest, found⟩
                  · have closed : closeSpan? star (spell index symbols) = none := by
                      rw [Option.eq_none_iff_forall_ne_some]
                      rintro ⟨content, rest⟩ found
                      exact opens (of_opens_spell (closeSpan?_eq_some_iff.mp found))
                    rw [spell, runs_loneStar closed, markup]
                    rfl
              · obtain ⟨parts, divides, markup⟩ := ih _ shorter index symbols rfl
                refine ⟨.single (.inl character) :: parts, .single ?_ divides, ?_⟩
                · intro content rest opens
                  have shape := opens.shape
                  simp only [List.append_assoc, List.cons_append, List.nil_append,
                    List.cons.injEq, Sum.inl.injEq] at shape
                  exact isStar shape.1
                · rw [spell, runs_other isStar, markup]
                  rfl

end Compositor.Markup

import Compositor.Proofs.Markup.EmphasisSpans
import Compositor.Proofs.Text.Replacing

/-! How bold spans come back. A stand-in is a number between two marks, and a text with stand-ins is
a list of pieces joined by marks: the numbers, and the literal text between them. The stand-in of a
number is replaced wherever this number stands between two marks. Stand-ins come in order, so all is
well unless a literal piece between two stand-ins is the number of an earlier span: this piece is
then taken for the middle of a stand-in, together with one mark of each of its neighbours. -/

namespace Compositor.Markup

open Text

def boldMark : Text := ['\x00', 'B', 'O', 'L', 'D', '\x00']

def standIn (digits : Text) : Text := boldMark ++ digits ++ boldMark

theorem boldStandIn_eq (index : Nat) : boldStandIn index = standIn (ofNat index) := rfl

theorem join_append (separator front first : Text) (pieces : List Text) :
    join separator ((front ++ first) :: pieces) = front ++ join separator (first :: pieces) := by
  cases pieces with
  | nil => rfl
  | cons second pieces => simp only [join, List.append_assoc]

/-! Replacing one stand-in. -/

def merge (digits markup : Text) : (first : Text) → (pieces : List Text) → List Text
  | first, middle :: last :: pieces =>
      if middle = digits then merge digits markup (first ++ markup ++ last) pieces
      else first :: merge digits markup middle (last :: pieces)
  | first, pieces => first :: pieces

section
variable {digits markup : Text}

theorem merge_middle (first last : Text) (pieces : List Text) :
    merge digits markup first (digits :: last :: pieces) =
      merge digits markup (first ++ markup ++ last) pieces := by
  rw [merge, if_pos rfl]

theorem merge_other {middle : Text} (other : middle ≠ digits) (first last : Text)
    (pieces : List Text) :
    merge digits markup first (middle :: last :: pieces) =
      first :: merge digits markup middle (last :: pieces) := by
  rw [merge, if_neg other]

theorem merge_plain (plainMarkup : '\x00' ∉ markup) {first : Text} {pieces : List Text}
    (plain : ∀ piece ∈ first :: pieces, '\x00' ∉ piece) :
    ∀ piece ∈ merge digits markup first pieces, '\x00' ∉ piece := by
  fun_induction merge digits markup first pieces with
  | case1 first last pieces ih =>
      refine ih (List.forall_mem_cons.mpr ⟨?_, fun piece member => plain piece (by simp [member])⟩)
      simp [plain first (by simp), plainMarkup, plain last (by simp)]
  | case2 first middle last pieces other ih =>
      obtain ⟨firstPlain, rest⟩ := List.forall_mem_cons.mp plain
      exact List.forall_mem_cons.mpr ⟨firstPlain, ih rest⟩
  | case3 first pieces short => exact plain

theorem merge_head (digits markup first : Text) (pieces : List Text) :
    ∃ behind more, merge digits markup first pieces = (first ++ behind) :: more := by
  fun_induction merge digits markup first pieces with
  | case1 first last pieces ih =>
      obtain ⟨behind, more, shape⟩ := ih
      exact ⟨markup ++ last ++ behind, more, by rw [shape]; simp only [List.append_assoc]⟩
  | case2 first middle last pieces other ih => exact ⟨[], _, by rw [List.append_nil]⟩
  | case3 first pieces short => exact ⟨[], _, by rw [List.append_nil]⟩

theorem replaceAll_mark {text : Text} (notMiddle : ¬ digits ++ boldMark <+: text)
    (notShifted : ¬ ['B', 'O', 'L', 'D', '\x00'] ++ (digits ++ boldMark) <+: text) :
    replaceAll (standIn digits) markup (boldMark ++ text) =
      boldMark ++ replaceAll (standIn digits) markup text := by
  have first : ¬ standIn digits <+: boldMark ++ text := by
    rw [standIn, List.append_assoc, List.prefix_append_right_inj]
    exact notMiddle
  have other {character : Char} (different : '\x00' ≠ character) (rest : Text) :
      ¬ standIn digits <+: character :: rest := by
    rw [standIn, boldMark, List.cons_append, List.cons_append, List.cons_prefix_cons]
    exact fun same => different same.1
  have last : ¬ standIn digits <+: '\x00' :: text := by
    rw [standIn, List.append_assoc, boldMark, List.cons_append, List.cons_prefix_cons]
    exact fun same => notShifted same.2
  simp only [boldMark, List.cons_append, List.nil_append] at first ⊢
  rw [replaceAll_pass _ first, replaceAll_pass _ (other (by decide) _),
    replaceAll_pass _ (other (by decide) _), replaceAll_pass _ (other (by decide) _),
    replaceAll_pass _ (other (by decide) _), replaceAll_pass _ last]

theorem replaceAll_plain {text : Text} (plain : '\x00' ∉ text) (rest : Text) :
    replaceAll (standIn digits) markup (text ++ rest) =
      text ++ replaceAll (standIn digits) markup rest :=
  replaceAll_front _ plain rest

theorem replaceAll_otherMark (numeric : ∀ digit ∈ digits, digit.isDigit = true)
    (filled : digits ≠ []) {middle rest : Text} (plain : '\x00' ∉ middle) (other : middle ≠ digits) :
    replaceAll (standIn digits) markup (boldMark ++ (middle ++ (boldMark ++ rest))) =
      boldMark ++ (middle ++ replaceAll (standIn digits) markup (boldMark ++ rest)) := by
  have plainDigits : '\x00' ∉ digits := by
    intro member
    exact absurd (numeric _ member) (by decide)
  rw [replaceAll_mark, replaceAll_plain plain]
  · intro before
    exact other (prefix_parted plainDigits plain before).1.symm
  · intro before
    have shape : ['B', 'O', 'L', 'D'] ++ '\x00' :: (digits ++ boldMark) <+:
        middle ++ '\x00' :: (['B', 'O', 'L', 'D', '\x00'] ++ rest) := before
    have behind := (prefix_parted (by decide) plain shape).2
    cases digits with
    | nil => exact filled rfl
    | cons digit digits =>
        have same := (List.cons_prefix_cons.mp behind).1
        exact absurd (same ▸ numeric _ (.head _)) (by decide)

theorem replaceAll_lastMark {last : Text} (plain : '\x00' ∉ last) :
    replaceAll (standIn digits) markup (boldMark ++ last) = boldMark ++ last := by
  have without {front : Text} : ¬ front ++ boldMark <+: last := by
    intro before
    have member : '\x00' ∈ front ++ boldMark := by simp [boldMark]
    exact plain (before.subset member)
  have unchanged := @replaceAll_plain digits markup _ plain []
  rw [List.append_nil] at unchanged
  rw [replaceAll_mark without (by rw [← List.append_assoc]; exact without), unchanged]
  exact congrArg _ (List.append_nil last)

theorem replaceAll_join (numeric : ∀ digit ∈ digits, digit.isDigit = true) (filled : digits ≠ [])
    (plainMarkup : '\x00' ∉ markup) {first : Text} {pieces : List Text}
    (plain : ∀ piece ∈ first :: pieces, '\x00' ∉ piece) :
    replaceAll (standIn digits) markup (join boldMark (first :: pieces)) =
      join boldMark (merge digits markup first pieces) := by
  fun_induction merge digits markup first pieces with
  | case1 first last pieces ih =>
      have firstPlain : '\x00' ∉ first := plain _ (.head _)
      have lastPlain : '\x00' ∉ last := plain _ (by simp)
      have text : join boldMark (first :: digits :: last :: pieces) =
          first ++ (standIn digits ++ join boldMark (last :: pieces)) := by
        simp only [join, standIn, List.append_assoc]
      have mergedPlain : '\x00' ∉ first ++ markup ++ last := by
        simp [firstPlain, plainMarkup, lastPlain]
      have merged := ih (List.forall_mem_cons.mpr
        ⟨mergedPlain, fun piece member => plain piece (by simp [member])⟩)
      rw [join_append, List.append_assoc, replaceAll_plain firstPlain,
        replaceAll_plain plainMarkup] at merged
      have standInFilled : standIn digits ≠ [] := by simp [standIn, boldMark]
      rw [text, replaceAll_plain firstPlain, replaceAll_found _ standInFilled, merged]
  | case2 first middle last pieces other ih =>
      have firstPlain : '\x00' ∉ first := plain _ (.head _)
      have middlePlain : '\x00' ∉ middle := plain _ (by simp)
      have rest := ih fun piece member => plain piece (.tail _ member)
      obtain ⟨behind, more, shape⟩ := merge_head digits markup middle (last :: pieces)
      rw [join, List.append_assoc, replaceAll_plain middlePlain] at rest
      rw [shape] at rest ⊢
      rw [join, join, join, List.append_assoc, List.append_assoc, replaceAll_plain firstPlain,
        List.append_assoc, replaceAll_otherMark numeric filled middlePlain other, rest]
  | case3 first pieces short =>
      have firstPlain : '\x00' ∉ first := plain _ (.head _)
      rcases pieces with _ | ⟨last, _ | ⟨more, pieces⟩⟩
      · have unchanged := @replaceAll_plain digits markup _ firstPlain []
        rw [List.append_nil] at unchanged
        rw [join, unchanged]
        exact List.append_nil first
      · rw [join, join, List.append_assoc, replaceAll_plain firstPlain,
          replaceAll_lastMark (plain _ (by simp))]
      · exact absurd rfl (short last more pieces)

/-- A piece in the place of a number that holds an asterisk. -/
def Broken : (number : Bool) → (pieces : List Text) → Prop
  | _, [] => False
  | number, piece :: pieces => (number = true ∧ '*' ∈ piece) ∨ Broken (!number) pieces

/-- Such a piece never goes away: it is no number, and what it is merged into has its place. -/
theorem Broken.merge (numeric : ∀ digit ∈ digits, digit.isDigit = true) {number : Bool}
    {first : Text} {pieces : List Text} (broken : Broken number (first :: pieces)) :
    Broken number (merge digits markup first pieces) := by
  fun_induction Markup.merge digits markup first pieces generalizing number with
  | case1 first last pieces ih =>
      apply ih
      rcases broken with ⟨odd, star⟩ | ⟨-, star⟩ | ⟨odd, star⟩ | rest
      · exact .inl ⟨odd, by simp [star]⟩
      · exact absurd (numeric _ star) (by decide)
      · rw [Bool.not_not] at odd
        exact .inl ⟨odd, by simp [star]⟩
      · rw [Bool.not_not] at rest
        exact .inr rest
  | case2 first middle last pieces other ih => exact broken.imp_right ih
  | case3 first pieces short => exact broken

theorem Broken.mem_join {first : Text} {pieces : List Text}
    (broken : Broken false (first :: pieces)) :
    '\x00' ∈ join boldMark (first :: pieces) := by
  rcases broken with ⟨odd, -⟩ | broken
  · cases odd
  · cases pieces with
    | nil => exact broken.elim
    | cons piece pieces => simp [join, boldMark]

end

theorem ofNat_ne_nil (number : Nat) : ofNat number ≠ [] := Nat.toDigits_ne_nil

theorem ofNat_injective {first second : Nat} (same : ofNat first = ofNat second) :
    first = second := by
  have digits : Nat.toDigits 10 first = Nat.toDigits 10 second := same
  rw [← @Nat.ofDigitChars_ten_toDigits first, digits, Nat.ofDigitChars_ten_toDigits]

/-! The stand-ins of a text, one after the other. -/

def lead : List Symbol → Text
  | [] => []
  | .inl character :: symbols => character :: lead symbols
  | .inr _ :: _ => []

/-- A bold span, and the literal text from it to the next one. -/
structure BoldSpan where
  content : Text
  behind : Text

def boldSpans : List Symbol → List BoldSpan
  | [] => []
  | .inl _ :: symbols => boldSpans symbols
  | .inr content :: symbols => ⟨content, lead symbols⟩ :: boldSpans symbols

def piecesFrom : (index : Nat) → List BoldSpan → List Text
  | _, [] => []
  | index, span :: spans => ofNat index :: span.behind :: piecesFrom (index + 1) spans

/-- The number of a span is the literal text between two spans behind it. -/
def Clashes : (index : Nat) → List BoldSpan → Prop
  | _, [] => False
  | index, _ :: spans =>
      ofNat index ∈ spans.dropLast.map BoldSpan.behind ∨ Clashes (index + 1) spans

def bold (content : Text) : Text := '*' :: (content ++ ['*'])

def BoldSpan.markup (span : BoldSpan) : Text := bold span.content ++ span.behind

def BoldSpan.Plain (span : BoldSpan) : Prop := '\x00' ∉ span.content ∧ '\x00' ∉ span.behind

theorem spell_eq_join (index : Nat) (symbols : List Symbol) :
    spell index symbols = join boldMark (lead symbols :: piecesFrom index (boldSpans symbols)) := by
  induction symbols generalizing index with
  | nil => rfl
  | cons symbol symbols ih =>
      cases symbol with
      | inl character =>
          have joined := join_append boldMark [character] (lead symbols)
            (piecesFrom index (boldSpans symbols))
          rw [spell, ih]
          exact joined.symm
      | inr content =>
          rw [spell, ih, boldStandIn_eq, standIn, lead, boldSpans, piecesFrom, join, join]
          simp only [List.append_assoc, List.nil_append]

theorem boldContents_eq (symbols : List Symbol) :
    boldContents symbols = (boldSpans symbols).map BoldSpan.content := by
  induction symbols with
  | nil => rfl
  | cons symbol symbols ih =>
      cases symbol with
      | inl character => exact ih
      | inr content => exact congrArg (content :: ·) ih

theorem piecesFrom_plain {index : Nat} {spans : List BoldSpan}
    (plain : ∀ span ∈ spans, span.Plain) :
    ∀ piece ∈ piecesFrom index spans, '\x00' ∉ piece := by
  induction spans generalizing index with
  | nil =>
      intro piece member
      cases member
  | cons span spans ih =>
      obtain ⟨spanPlain, rest⟩ := List.forall_mem_cons.mp plain
      refine List.forall_mem_cons.mpr ⟨?_, List.forall_mem_cons.mpr ⟨spanPlain.2, ih rest⟩⟩
      intro member
      exact absurd (isDigit_of_mem_ofNat member) (by decide)

theorem merge_clear {digits markup first : Text} {index : Nat} {spans : List BoldSpan}
    (apart : ∀ number, index ≤ number → ofNat number ≠ digits)
    (clear : digits ∉ spans.dropLast.map BoldSpan.behind) :
    merge digits markup first (piecesFrom index spans) = first :: piecesFrom index spans := by
  induction spans generalizing first index with
  | nil => rfl
  | cons span spans ih =>
      rw [piecesFrom, merge_other (apart index (Nat.le_refl _))]
      cases spans with
      | nil => rfl
      | cons next spans =>
          rw [List.dropLast_cons_cons, List.map_cons, List.mem_cons, not_or] at clear
          have rest := @ih span.behind (index + 1) (fun number above => apart number (by omega))
            clear.2
          rw [piecesFrom] at rest ⊢
          rw [merge_other (Ne.symm clear.1), rest]

theorem merge_clash {digits content first : Text} {index : Nat} {spans : List BoldSpan}
    (apart : ∀ number, index ≤ number → ofNat number ≠ digits)
    (clash : digits ∈ spans.dropLast.map BoldSpan.behind) :
    Broken false (merge digits (bold content) first (piecesFrom index spans)) := by
  induction spans generalizing first index with
  | nil => cases clash
  | cons span spans ih =>
      rw [piecesFrom, merge_other (apart index (Nat.le_refl _))]
      cases spans with
      | nil => cases clash
      | cons next spans =>
          rw [piecesFrom]
          refine .inr ?_
          by_cases same : span.behind = digits
          · -- Both neighbours are numbers, so what they become has the place of a number.
            rw [same, merge_middle]
            obtain ⟨behind, more, shape⟩ := merge_head digits (bold content)
              (ofNat index ++ bold content ++ ofNat (index + 1))
              (next.behind :: piecesFrom (index + 1 + 1) spans)
            rw [shape]
            exact .inl ⟨rfl, by simp [bold]⟩
          · rw [List.dropLast_cons_cons, List.map_cons, List.mem_cons] at clash
            have later := clash.resolve_left (Ne.symm same)
            rw [merge_other same]
            exact .inr (ih (fun number above => apart number (by omega)) later)

/-! Restoring all spans in turn. -/

theorem restoreBold_cons (index : Nat) (content : Text) (contents : List Text) {first : Text}
    {pieces : List Text} (plainContent : '\x00' ∉ content)
    (plain : ∀ piece ∈ first :: pieces, '\x00' ∉ piece) :
    restoreBold index (content :: contents) (join boldMark (first :: pieces)) =
      restoreBold (index + 1) contents
        (join boldMark (merge (ofNat index) (bold content) first pieces)) := by
  have numeric : ∀ digit ∈ ofNat index, digit.isDigit = true := fun _ => isDigit_of_mem_ofNat
  have plainMarkup : '\x00' ∉ bold content := by simp [bold, plainContent]
  rw [← replaceAll_join numeric (ofNat_ne_nil index) plainMarkup plain]
  rfl

theorem restoreBold_broken (index : Nat) {contents : List Text}
    (plainContents : ∀ content ∈ contents, '\x00' ∉ content) {first : Text} {pieces : List Text}
    (plain : ∀ piece ∈ first :: pieces, '\x00' ∉ piece) (broken : Broken false (first :: pieces)) :
    '\x00' ∈ restoreBold index contents (join boldMark (first :: pieces)) := by
  induction contents generalizing index first pieces with
  | nil => exact broken.mem_join
  | cons content contents ih =>
      obtain ⟨plainContent, plainRest⟩ := List.forall_mem_cons.mp plainContents
      have plainMarkup : '\x00' ∉ bold content := by simp [bold, plainContent]
      have stillBroken : Broken false (merge (ofNat index) (bold content) first pieces) :=
        broken.merge fun _ => isDigit_of_mem_ofNat
      have stillPlain := @merge_plain (ofNat index) _ plainMarkup _ _ plain
      rw [restoreBold_cons index content contents plainContent plain]
      obtain ⟨behind, more, shape⟩ := merge_head (ofNat index) (bold content) first pieces
      rw [shape] at stillBroken stillPlain ⊢
      exact ih (index + 1) plainRest stillPlain stillBroken

theorem restoreBold_spans {index : Nat} {first : Text} {spans : List BoldSpan}
    (plainFirst : '\x00' ∉ first) (plain : ∀ span ∈ spans, span.Plain) :
    let restored := restoreBold index (spans.map BoldSpan.content)
      (join boldMark (first :: piecesFrom index spans))
    (Clashes index spans ∧ '\x00' ∈ restored) ∨
      (¬ Clashes index spans ∧ restored = first ++ spans.flatMap BoldSpan.markup) := by
  intro restored
  induction spans generalizing index first with
  | nil => exact .inr ⟨id, (List.append_nil first).symm⟩
  | cons span spans ih =>
      obtain ⟨spanPlain, restPlain⟩ := List.forall_mem_cons.mp plain
      have piecesPlain : ∀ piece ∈ first :: piecesFrom index (span :: spans), '\x00' ∉ piece :=
        List.forall_mem_cons.mpr ⟨plainFirst, piecesFrom_plain plain⟩
      have boldPlain : '\x00' ∉ bold span.content := by simp [bold, spanPlain.1]
      have mergedPlain : '\x00' ∉ first ++ bold span.content ++ span.behind := by
        simp [plainFirst, boldPlain, spanPlain.2]
      have apart : ∀ number, index + 1 ≤ number → ofNat number ≠ ofNat index := by
        intro number above same
        have := ofNat_injective same
        omega
      have step : restored = restoreBold (index + 1) (spans.map BoldSpan.content)
          (join boldMark (merge (ofNat index) (bold span.content)
            (first ++ bold span.content ++ span.behind) (piecesFrom (index + 1) spans))) := by
        rw [← merge_middle]
        exact restoreBold_cons index _ _ spanPlain.1 piecesPlain
      rw [step]
      -- The first stand-in is gone. Is its number also between two others?
      by_cases clash : ofNat index ∈ spans.dropLast.map BoldSpan.behind
      · refine .inl ⟨.inl clash, ?_⟩
        have broken := @merge_clash _ span.content (first ++ bold span.content ++ span.behind) _ _
          apart clash
        have stillPlain := @merge_plain (ofNat index) _ boldPlain _ _ (List.forall_mem_cons.mpr
          ⟨mergedPlain, @piecesFrom_plain (index + 1) _ restPlain⟩)
        obtain ⟨behind, more, shape⟩ := merge_head (ofNat index) (bold span.content)
          (first ++ bold span.content ++ span.behind) (piecesFrom (index + 1) spans)
        rw [shape] at broken stillPlain ⊢
        refine restoreBold_broken (index + 1) ?_ stillPlain broken
        exact List.forall_mem_map.mpr fun span member => (restPlain span member).1
      · rw [merge_clear apart clash]
        rcases @ih (index + 1) _ mergedPlain restPlain with ⟨later, marked⟩ | ⟨none, done⟩
        · exact .inl ⟨.inr later, marked⟩
        · refine .inr ⟨not_or.mpr ⟨clash, none⟩, ?_⟩
          rw [done, List.flatMap_cons, BoldSpan.markup]
          simp only [List.append_assoc]

end Compositor.Markup

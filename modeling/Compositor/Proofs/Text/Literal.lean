import Compositor.Proofs.Text.Squeeze
import Mathlib.Data.List.Infix

/-! String literals. In a literal a backslash stands for the character behind it, and the first
other quote closes it. So a value that is written as it is reads back if and only if it holds
neither of the two. -/

namespace Compositor.Text

def readLiteral? : (text : Text) → Option (Text × Text)
  | [] => none
  | '"' :: text => some ([], text)
  | ['\\'] => none
  | '\\' :: character :: text =>
      (readLiteral? text).map fun (value, after) => (character :: value, after)
  | character :: text =>
      (readLiteral? text).map fun (value, after) => (character :: value, after)

def isPlain (value : Text) : Bool :=
  value.all fun character => character != '"' && character != '\\'

theorem isPlain_cons {character : Char} {value : Text} :
    isPlain (character :: value) = true ↔
      (character ≠ '"' ∧ character ≠ '\\') ∧ isPlain value = true := by
  simp [isPlain]

theorem readLiteral?_length {text value after : Text}
    (read : readLiteral? text = some (value, after)) :
    value.length + after.length < text.length := by
  fun_induction readLiteral? text generalizing value with
  | case1 => cases read
  | case2 text =>
      obtain ⟨rfl, rfl⟩ := Prod.mk.inj (Option.some.inj read)
      simp
  | case3 => cases read
  | case4 character text ih =>
      simp only [Option.map_eq_some_iff, Prod.mk.injEq, Prod.exists] at read
      obtain ⟨inner, _, read, rfl, rfl⟩ := read
      have shorter := ih read
      simp only [List.length_cons]
      omega
  | case5 character text _ _ _ ih =>
      simp only [Option.map_eq_some_iff, Prod.mk.injEq, Prod.exists] at read
      obtain ⟨inner, _, read, rfl, rfl⟩ := read
      have shorter := ih read
      simp only [List.length_cons]
      omega

theorem readLiteral?_cons {character : Char} (notQuote : character ≠ '"')
    (notBackslash : character ≠ '\\') (text : Text) :
    readLiteral? (character :: text) =
      (readLiteral? text).map fun (value, after) => (character :: value, after) := by
  rw [readLiteral?]
  · intro same
    exact notQuote same
  · intro same
    exact absurd same notBackslash
  · intro _ _ same
    exact absurd same notBackslash

-- The character behind the backslash is passed over, so too little is left for the value.
theorem readLiteral?_backslash (value after : Text) :
    readLiteral? ('\\' :: (value ++ '"' :: after)) ≠ some ('\\' :: value, after) := by
  intro read
  have rest : ∃ next rest, value ++ '"' :: after = next :: rest ∧
      rest.length = value.length + after.length := by
    cases value with
    | nil => exact ⟨'"', after, rfl, by simp⟩
    | cons next value => exact ⟨next, value ++ '"' :: after, rfl, by simp; omega⟩
  obtain ⟨next, rest, shape, length⟩ := rest
  rw [shape, readLiteral?] at read
  simp only [Option.map_eq_some_iff, Prod.mk.injEq, List.cons.injEq, Prod.exists] at read
  obtain ⟨inner, _, read, ⟨-, rfl⟩, rfl⟩ := read
  have shorter := readLiteral?_length read
  omega

/-- What is written as it is reads back only if it is plain: a quote would close the literal too
early, and a backslash would be lost. -/
theorem readLiteral?_iff (value after : Text) :
    readLiteral? (value ++ '"' :: after) = some (value, after) ↔ isPlain value = true := by
  induction value with
  | nil => simp [readLiteral?, isPlain]
  | cons character value ih =>
      rw [isPlain_cons, List.cons_append]
      by_cases quote : character = '"'
      · subst quote
        simp [readLiteral?]
      by_cases backslash : character = '\\'
      · subst backslash
        refine iff_of_false (readLiteral?_backslash value after) ?_
        rintro ⟨⟨-, other⟩, -⟩
        exact other rfl
      · rw [readLiteral?_cons quote backslash]
        simp [quote, backslash, ← ih]

/-! Literals that stand in a text one after the other. -/

structure Literal where
  opening : Text
  value : Text
  closing : Text

namespace Literal

def written (literal : Literal) : Text :=
  literal.opening ++ literal.value ++ '"' :: literal.closing

/-- What follows the literal, if it stands at the start of the text and reads as its value. -/
def readAt? (literal : Literal) (text : Text) : Option Text :=
  (stripStart? literal.opening text).bind fun opened =>
    (readLiteral? opened).bind fun (value, after) =>
      if value = literal.value then stripStart? literal.closing after else none

theorem readAt?_written {literal : Literal} (plain : isPlain literal.value = true) (after : Text) :
    literal.readAt? (literal.written ++ after) = some after := by
  have opened : stripStart? literal.opening (literal.written ++ after) =
      some (literal.value ++ '"' :: (literal.closing ++ after)) := by
    rw [stripStart?_eq_some]
    simp only [written, List.append_assoc, List.cons_append]
  have read := (readLiteral?_iff literal.value (literal.closing ++ after)).mpr plain
  simp only [readAt?, opened, Option.bind_some, read, if_true, stripStart?_append]

end Literal

/-- The literals stand in the text in this order, and each of them reads as its value, up to the
quote behind that value, if and only if the value is plain. -/
def StandInOrder : (literals : List Literal) → (text : Text) → Prop
  | [], _ => True
  | literal :: literals, text =>
      ∃ before after, text = before ++ literal.written ++ after ∧
        (readLiteral? (literal.value ++ '"' :: (literal.closing ++ after)) =
          some (literal.value, literal.closing ++ after) ↔ isPlain literal.value = true) ∧
        StandInOrder literals after

theorem standInOrder_of_written {literals : List Literal} {text : Text}
    (occurs : OccursInOrder (literals.map Literal.written) text) : StandInOrder literals text := by
  induction literals generalizing text with
  | nil => trivial
  | cons literal literals ih =>
      obtain ⟨before, after, shape, rest⟩ := occurs
      exact ⟨before, after, shape, readLiteral?_iff literal.value _, ih rest⟩

def ReadInOrder : (literals : List Literal) → (text : Text) → Prop
  | [], _ => True
  | literal :: literals, text =>
      ∃ start ∈ text.tails, ∃ after ∈ literal.readAt? start, ReadInOrder literals after

theorem readInOrder_of_plain {literals : List Literal} {text : Text}
    (plain : ∀ literal ∈ literals, isPlain literal.value = true)
    (stand : StandInOrder literals text) : ReadInOrder literals text := by
  induction literals generalizing text with
  | nil => trivial
  | cons literal literals ih =>
      obtain ⟨before, after, rfl, -, rest⟩ := stand
      refine ⟨literal.written ++ after, ?_, after, ?_, ?_⟩
      · rw [List.mem_tails, List.append_assoc]
        exact List.suffix_append before _
      · exact Literal.readAt?_written (plain literal (.head _)) after
      · exact ih (fun later member => plain later (.tail _ member)) rest

end Compositor.Text

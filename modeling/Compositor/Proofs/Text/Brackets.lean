import Compositor.Proofs.Text.Squeeze

/-! Texts with balanced square brackets. A reader counts the brackets that are open; a text is
balanced if no bracket is closed before it is open and none is left open. White space does not
matter, and brackets around a balanced text balance. -/

namespace Compositor.Text

/-- Every part from the start of the text has as many opening brackets as closing ones or more, and
the whole text has as many. -/
structure Balanced (text : Text) : Prop where
  opened : ∀ start, start <+: text → start.count ']' ≤ start.count '['
  closed : text.count '[' = text.count ']'

def isBracket (character : Char) : Bool := character == '[' || character == ']'

def bracketFree (text : Text) : Bool := text.all (! isBracket ·)

theorem isBracket_false_iff {character : Char} :
    isBracket character = false ↔ character ≠ '[' ∧ character ≠ ']' := by
  simp only [isBracket, Bool.or_eq_false_iff, beq_eq_false_iff_ne]

theorem bracket_cases (character : Char) :
    character = '[' ∨ character = ']' ∨ isBracket character = false := by
  rw [isBracket_false_iff]
  by_cases character = '[' <;> by_cases character = ']' <;> simp [*]

theorem bracketFree_iff {text : Text} :
    bracketFree text = true ↔ ∀ character ∈ text, isBracket character = false := by
  simp only [bracketFree, List.all_eq_true, Bool.not_eq_true']

theorem bracketFree_cons {character : Char} {text : Text} :
    bracketFree (character :: text) = true ↔
      isBracket character = false ∧ bracketFree text = true := by
  rw [bracketFree, List.all_cons, Bool.and_eq_true, Bool.not_eq_true']
  rfl

theorem bracketFree_append {first second : Text} :
    bracketFree (first ++ second) = true ↔
      bracketFree first = true ∧ bracketFree second = true := by
  rw [bracketFree, List.all_append, Bool.and_eq_true]
  rfl

theorem bracketFree_flatMap {Item : Type} {items : List Item} {markup : Item → Text} :
    bracketFree (items.flatMap markup) = true ↔
      ∀ item ∈ items, bracketFree (markup item) = true := by
  rw [bracketFree, List.all_flatMap, List.all_eq_true]
  rfl

theorem bracketFree_ofNat (number : Nat) : bracketFree (ofNat number) = true := by
  rw [bracketFree_iff]
  intro character member
  have digit := Nat.isDigit_of_mem_toDigits (by decide) (Nat.le_refl 10) member
  rw [isBracket_false_iff]
  constructor <;> (rintro rfl; exact absurd digit (by decide))

theorem bracketFree_replaceAll {replacement text : Text} (piece : Text)
    (new : bracketFree replacement = true) (free : bracketFree text = true) :
    bracketFree (replaceAll piece replacement text) = true := by
  rw [replaceAll]
  generalize 0 = skip
  fun_induction replaceFrom piece replacement skip text with
  | case1 => rfl
  | case2 skip character text ih => exact ih (bracketFree_cons.mp free).2
  | case3 character text found ih =>
      exact bracketFree_append.mpr ⟨new, ih (bracketFree_cons.mp free).2⟩
  | case4 character text other ih =>
      exact bracketFree_cons.mpr ⟨(bracketFree_cons.mp free).1, ih (bracketFree_cons.mp free).2⟩

/-! The number of open brackets. -/

/-- The brackets open after a text with `depth` open before it, if each one that it closes is
open. -/
def nesting : (depth : Nat) → (text : Text) → Option Nat
  | depth, [] => some depth
  | depth, '[' :: text => nesting (depth + 1) text
  | 0, ']' :: _ => none
  | depth + 1, ']' :: text => nesting depth text
  | depth, _ :: text => nesting depth text

def Nests (depth : Nat) (text : Text) (final : Nat) : Prop := nesting depth text = some final

instance (depth final : Nat) (text : Text) : Decidable (Nests depth text final) :=
  inferInstanceAs (Decidable (_ = _))

theorem nesting_other {character : Char} (other : isBracket character = false) (depth : Nat)
    (text : Text) : nesting depth (character :: text) = nesting depth text := by
  rw [isBracket_false_iff] at other
  rw [nesting]
  · exact other.1
  · exact fun _ => other.2
  · exact fun _ _ => other.2

theorem forall_prefix_cons {Holds : Text → Prop} {character : Char} {text : Text} :
    (∀ start, start <+: character :: text → Holds start) ↔
      Holds [] ∧ ∀ start, start <+: text → Holds (character :: start) := by
  constructor
  · intro each
    exact ⟨each [] List.nil_prefix,
      fun start before => each _ (List.cons_prefix_cons.mpr ⟨rfl, before⟩)⟩
  · rintro ⟨empty, each⟩ start before
    rcases List.prefix_cons_iff.mp before with rfl | ⟨rest, rfl, inner⟩
    · exact empty
    · exact each rest inner

theorem nests_iff {depth final : Nat} {text : Text} :
    Nests depth text final ↔
      (∀ start, start <+: text → start.count ']' ≤ depth + start.count '[') ∧
        depth + text.count '[' = final + text.count ']' := by
  induction text generalizing depth with
  | nil => simp [Nests, nesting]
  | cons character text ih =>
      rw [forall_prefix_cons]
      rcases bracket_cases character with rfl | rfl | other
      · have pass : Nests depth ('[' :: text) final ↔ Nests (depth + 1) text final := Iff.rfl
        simp [pass, ih, Nat.add_assoc, Nat.add_comm 1]
      · cases depth with
        | zero =>
            have stuck : ¬Nests 0 (']' :: text) final := nofun
            simp only [stuck, false_iff, not_and]
            rintro ⟨-, each⟩
            exact absurd (each [] List.nil_prefix) (by simp)
        | succ depth =>
            have pass : Nests (depth + 1) (']' :: text) final ↔ Nests depth text final := Iff.rfl
            have distinct : ']' ≠ '[' := by decide
            simp only [pass, ih, List.count_cons_self, List.count_cons_of_ne distinct]
            constructor
            · rintro ⟨each, total⟩
              refine ⟨⟨Nat.zero_le _, fun start before => ?_⟩, by omega⟩
              have := each start before
              omega
            · rintro ⟨⟨-, each⟩, total⟩
              refine ⟨fun start before => ?_, by omega⟩
              have := each start before
              omega
      · rw [Nests, nesting_other other, ← Nests, ih]
        rw [isBracket_false_iff] at other
        simp [List.count_cons_of_ne, other.1, other.2]

theorem balanced_iff {text : Text} : Balanced text ↔ Nests 0 text 0 := by
  rw [nests_iff]
  simp only [Nat.zero_add]
  exact ⟨fun balanced => ⟨balanced.opened, balanced.closed⟩, fun both => ⟨both.1, both.2⟩⟩

instance (text : Text) : Decidable (Balanced text) := decidable_of_iff _ balanced_iff.symm

theorem nesting_append (depth : Nat) (first second : Text) :
    nesting depth (first ++ second) = (nesting depth first).bind (nesting · second) := by
  fun_induction nesting depth first with
  | case1 => rfl
  | case2 depth text ih => exact ih
  | case3 => rfl
  | case4 depth text ih => exact ih
  | case5 depth character text notOpen notClosed₀ notClosed ih =>
      rw [List.cons_append, nesting, ih]
      · exact notOpen
      · exact notClosed₀
      · exact notClosed

theorem Nests.append {depth middle final : Nat} {first second : Text}
    (earlier : Nests depth first middle) (later : Nests middle second final) :
    Nests depth (first ++ second) final := by
  rw [Nests, nesting_append, earlier]
  exact later

theorem nesting_squeeze (depth : Nat) (text : Text) :
    nesting depth (squeeze text) = nesting depth text := by
  fun_induction nesting depth text with
  | case1 => rfl
  | case2 depth text ih => exact ih
  | case3 => rfl
  | case4 depth text ih => exact ih
  | case5 depth character text notOpen notClosed₀ notClosed ih =>
      cases blank : isBlank character with
      | true => rw [squeeze_blank blank, ih]
      | false =>
          rw [squeeze, List.filter_cons_of_pos (by simp [blank]), nesting, ← squeeze, ih]
          · exact notOpen
          · exact notClosed₀
          · exact notClosed

/-! Texts that are balanced. -/

theorem balanced_of_bracketFree {text : Text} (free : bracketFree text = true) : Balanced text := by
  rw [balanced_iff]
  induction text with
  | nil => rfl
  | cons character text ih =>
      rw [bracketFree_cons] at free
      rw [Nests, nesting_other free.1]
      exact ih free.2

namespace Balanced

theorem nil : Balanced [] := balanced_of_bracketFree rfl

theorem nests {text : Text} (balanced : Balanced text) (depth : Nat) : Nests depth text depth := by
  rw [nests_iff]
  refine ⟨fun start before => ?_, congrArg _ balanced.closed⟩
  exact Nat.le_add_left_of_le (balanced.opened start before)

theorem append {first second : Text} (earlier : Balanced first) (later : Balanced second) :
    Balanced (first ++ second) :=
  balanced_iff.mpr ((earlier.nests 0).append (later.nests 0))

theorem between {front content back : Text} (balanced : Balanced content)
    (before : Balanced front) (after : Balanced back) : Balanced (front ++ content ++ back) :=
  (before.append balanced).append after

theorem within {front content back : Text} (balanced : Balanced content) (opens : Nests 0 front 1)
    (closes : Nests 1 back 0) : Balanced (front ++ content ++ back) :=
  balanced_iff.mpr ((opens.append (balanced.nests 1)).append closes)

theorem flatMap {Item : Type} {items : List Item} {markup : Item → Text}
    (each : ∀ item ∈ items, Balanced (markup item)) : Balanced (items.flatMap markup) := by
  induction items with
  | nil => exact nil
  | cons item items ih =>
      exact (each item (.head _)).append (ih fun later member => each later (.tail _ member))

theorem join {separator : Text} {pieces : List Text} (separates : Balanced separator)
    (each : ∀ piece ∈ pieces, Balanced piece) : Balanced (Text.join separator pieces) := by
  fun_induction Text.join separator pieces with
  | case1 => exact nil
  | case2 piece => exact each piece (.head _)
  | case3 piece next pieces ih =>
      have rest := ih fun later member => each later (.tail _ member)
      exact separates.between (each piece (.head _)) rest

-- A long literal is read as its list of characters; to unfold its `toList` would decode them first.
theorem literal {characters : List Char} (balanced : Balanced characters) :
    Balanced (String.ofList characters).toList := by
  rwa [String.toList_ofList]

theorem of_squeeze {text other : Text} (balanced : Balanced text)
    (same : squeeze other = squeeze text) : Balanced other := by
  rw [balanced_iff, Nests, ← nesting_squeeze, same, nesting_squeeze]
  exact balanced_iff.mp balanced

end Balanced
end Compositor.Text

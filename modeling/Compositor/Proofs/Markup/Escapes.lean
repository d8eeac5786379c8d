import Compositor.Markup.Inline

/-! What the text of a document can open. In markup a backslash escapes exactly the next character;
a dollar sign that is met unescaped opens math, and such an at sign a reference. The two signs are
written behind a backslash, but a backslash of the text is written as it is: where it would escape
a sign, it escapes the new backslash, and the sign is met unescaped. -/

namespace Compositor.Markup

def escapes (escaped : Bool) (character : Char) : Bool := !escaped && character == '\\'

/-- The characters of a text as they are met from the left, each with whether it is escaped. -/
def meet : (escaped : Bool) → Text → List (Char × Bool)
  | _, [] => []
  | escaped, character :: text => (character, escaped) :: meet (escapes escaped character) text

def isSign (character : Char) : Bool := character == '$' || character == '@'

def signs (escaped : Bool) (text : Text) : List (Char × Bool) :=
  (meet escaped text).filter (isSign ·.1)

def Inert (text : Text) : Prop := ∀ sign ∈ signs false text, sign.2 = true

instance (text : Text) : Decidable (Inert text) :=
  inferInstanceAs (Decidable (∀ sign ∈ signs false text, sign.2 = true))

def turnOver (sign : Char × Bool) : Char × Bool := (sign.1, !sign.2)

theorem signs_sign {character : Char} (sign : isSign character = true) (escaped : Bool)
    (text : Text) : signs escaped (character :: text) = (character, escaped) :: signs false text := by
  have next : escapes escaped character = false := by
    have other : (character == '\\') = false := by
      simp only [isSign, Bool.or_eq_true, beq_iff_eq] at sign
      rcases sign with rfl | rfl <;> rfl
    rw [escapes, other, Bool.and_false]
  rw [signs, meet, next, List.filter_cons_of_pos (by exact sign), signs]

theorem signs_other {character : Char} (other : isSign character = false) (escaped : Bool)
    (text : Text) :
    signs escaped (character :: text) = signs (escapes escaped character) text := by
  rw [signs, meet, List.filter_cons_of_neg (by simp [other]), signs]

theorem escapeCharacter_sign {character : Char} (sign : isSign character = true) :
    escapeCharacter character = ['\\', character] := by
  simp only [isSign, Bool.or_eq_true, beq_iff_eq] at sign
  exact if_pos sign

theorem escapeCharacter_other {character : Char} (other : isSign character = false) :
    escapeCharacter character = [character] := by
  simp only [isSign, Bool.or_eq_false_iff, beq_eq_false_iff_ne] at other
  exact if_neg (not_or.mpr other)

-- The new backslash is escaped itself if the sign was, and then it escapes nothing.
theorem signs_escaped {character : Char} (sign : isSign character = true) (escaped : Bool)
    (text : Text) :
    signs escaped ('\\' :: character :: text) = (character, !escaped) :: signs false text := by
  have next : escapes escaped '\\' = !escaped := Bool.and_true _
  rw [signs_other rfl, next, signs_sign sign]

theorem signs_escapeText (escaped : Bool) (text : Text) :
    signs escaped (escapeText text) = (signs escaped text).map turnOver := by
  induction text generalizing escaped with
  | nil => rfl
  | cons character text ih =>
      rw [escapeText, List.flatMap_cons]
      change signs escaped (escapeCharacter character ++ escapeText text) = _
      cases sign : isSign character with
      | true =>
          rw [escapeCharacter_sign sign, List.cons_append, List.cons_append, List.nil_append,
            signs_escaped sign, signs_sign sign, List.map_cons, ih]
          rfl
      | false =>
          rw [escapeCharacter_other sign, List.cons_append, List.nil_append, signs_other sign,
            signs_other sign, ih]

theorem escapeText_inert_iff (text : Text) :
    Inert (escapeText text) ↔ ∀ sign ∈ signs false text, sign.2 = false := by
  simp only [Inert, signs_escapeText, List.forall_mem_map, turnOver, Bool.not_eq_true']

theorem signs_unescaped {text : Text} (plain : '\\' ∉ text) :
    ∀ sign ∈ signs false text, sign.2 = false := by
  induction text with
  | nil =>
      intro sign member
      cases member
  | cons character text ih =>
      have rest := ih fun member => plain (.tail _ member)
      cases sign : isSign character with
      | true =>
          rw [signs_sign sign]
          exact List.forall_mem_cons.mpr ⟨rfl, rest⟩
      | false =>
          have other : (character == '\\') = false := by
            rw [beq_eq_false_iff_ne]
            rintro rfl
            exact plain (.head _)
          have next : escapes false character = false := by rw [escapes, other, Bool.and_false]
          rw [signs_other sign, next]
          exact rest

/-- Every sign of a text run or of an image's caption is met escaped exactly where it would be met
unescaped in the text itself. So the text stays inert if and only if no backslash in it escapes a
sign. -/
theorem inline_signs (text : Text) :
    inline (.text text) = escapeText text ∧
      (∀ url, ∃ before after, inline (.image url text) = before ++ escapeText text ++ after) ∧
      signs false (escapeText text) = (signs false text).map turnOver ∧
      (Inert (escapeText text) ↔ ∀ sign ∈ signs false text, sign.2 = false) ∧
      ('\\' ∉ text → Inert (escapeText text)) := by
  refine ⟨rfl, ?_, signs_escapeText false text, escapeText_inert_iff text, ?_⟩
  · intro url
    exact ⟨"#figure(\n  image(\"" ++ quoteText url ++ "\"),\n  caption: [", "]\n)\n\n", rfl⟩
  · intro plain
    exact (escapeText_inert_iff text).mpr (signs_unescaped plain)

/-- The text `\$` is written as `\\$`, an escaped backslash before a dollar sign that opens math. -/
theorem escapeText_liveDollar :
    escapeText "\\$" = "\\\\$".toList ∧ ¬ Inert (escapeText "\\$") := by
  decide

end Compositor.Markup

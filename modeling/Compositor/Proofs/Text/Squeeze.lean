import Compositor.Text.Basic

/-! Texts without their white space, and pieces that are found in them one after the other. Trimming
and new lines do not matter to what is left. -/

namespace Compositor.Text

def squeeze (text : Text) : Text := text.filter (! isBlank ·)

@[simp] theorem squeeze_append (first second : Text) :
    squeeze (first ++ second) = squeeze first ++ squeeze second :=
  List.filter_append first second

theorem squeeze_flatMap (texts : List Text) (markup : Text → Text) :
    squeeze (texts.flatMap markup) = texts.flatMap fun text => squeeze (markup text) :=
  List.filter_flatMap

theorem squeeze_dropWhile (text : Text) : squeeze (text.dropWhile isBlank) = squeeze text := by
  induction text with
  | nil => rfl
  | cons character text ih =>
      cases blank : isBlank character with
      | true =>
          rw [List.dropWhile_cons_of_pos blank, ih, squeeze, squeeze,
            List.filter_cons_of_neg (by simp [blank])]
      | false => rw [List.dropWhile_cons_of_neg (by simp [blank])]

theorem squeeze_reverse (text : Text) : squeeze text.reverse = (squeeze text).reverse :=
  List.filter_reverse

theorem squeeze_trim (text : Text) : squeeze (trim text) = squeeze text := by
  rw [trim, trimEnd, squeeze_reverse, squeeze_dropWhile, squeeze_reverse, List.reverse_reverse,
    trimStart, squeeze_dropWhile]

theorem squeeze_blank {character : Char} (blank : isBlank character = true) (text : Text) :
    squeeze (character :: text) = squeeze text :=
  List.filter_cons_of_neg (by simp [blank])

theorem squeeze_cons (character : Char) (text : Text) :
    squeeze (character :: text) = squeeze [character] ++ squeeze text :=
  squeeze_append [character] text

theorem squeeze_lines (text : Text) : (lines text).flatMap squeeze = squeeze text := by
  fun_induction lines text with
  | case1 => rfl
  | case2 text ih => rw [List.flatMap_cons, ih, squeeze_blank rfl]; rfl
  | case3 text ih => rw [List.flatMap_cons, ih, squeeze_blank rfl, squeeze_blank rfl]; rfl
  | case4 character text _ _ none ih =>
      rw [none] at ih
      rw [squeeze_cons, ← ih]
      rfl
  | case5 character text _ _ line more found ih =>
      rw [found] at ih
      rw [squeeze_cons, ← ih, List.flatMap_cons, List.flatMap_cons, squeeze_cons,
        List.append_assoc]

/-- The pieces stand in the text in this order, and no two of them share a character. -/
def OccursInOrder : (pieces : List Text) → (text : Text) → Prop
  | [], _ => True
  | piece :: pieces, text =>
      ∃ before after, text = before ++ piece ++ after ∧ OccursInOrder pieces after

theorem OccursInOrder.prepend {pieces : List Text} {text : Text} (before : Text)
    (occurs : OccursInOrder pieces text) : OccursInOrder pieces (before ++ text) := by
  cases pieces with
  | nil => trivial
  | cons piece pieces =>
      obtain ⟨earlier, after, rfl, rest⟩ := occurs
      exact ⟨before ++ earlier, after, by simp only [List.append_assoc], rest⟩

theorem OccursInOrder.append {first second : List Text} {text more : Text}
    (earlier : OccursInOrder first text) (later : OccursInOrder second more) :
    OccursInOrder (first ++ second) (text ++ more) := by
  induction first generalizing text with
  | nil => exact later.prepend text
  | cons piece first ih =>
      obtain ⟨before, after, rfl, rest⟩ := earlier
      exact ⟨before, after ++ more, by simp only [List.append_assoc], ih rest⟩

theorem OccursInOrder.extend {pieces : List Text} {text : Text}
    (occurs : OccursInOrder pieces text) (behind : Text) :
    OccursInOrder pieces (text ++ behind) := by
  have none : OccursInOrder [] behind := trivial
  have both := occurs.append none
  rwa [List.append_nil] at both

theorem OccursInOrder.flatMap {Item : Type} {items : List Item} {pieces : Item → List Text}
    {markup : Item → Text} (each : ∀ item ∈ items, OccursInOrder (pieces item) (markup item)) :
    OccursInOrder (items.flatMap pieces) (items.flatMap markup) := by
  induction items with
  | nil => trivial
  | cons item items ih =>
      have rest := ih fun later member => each later (.tail _ member)
      exact (each item (.head _)).append rest

theorem OccursInOrder.join {Item : Type} {items : List Item} {pieces : Item → List Text}
    {markup : Item → Text} (separator : Text)
    (each : ∀ item ∈ items, OccursInOrder (pieces item) (markup item)) :
    OccursInOrder (items.flatMap pieces) (join separator (items.map markup)) := by
  induction items with
  | nil => trivial
  | cons item items ih =>
      have first := each item (.head _)
      have rest := ih fun later member => each later (.tail _ member)
      cases items with
      | nil =>
          rw [List.flatMap_singleton]
          exact first
      | cons next items => exact (first.extend separator).append rest

theorem OccursInOrder.within {pieces : List Text} {text : Text}
    (occurs : OccursInOrder pieces text) (before behind : Text) :
    OccursInOrder pieces (before ++ text ++ behind) :=
  (occurs.prepend before).extend behind

theorem OccursInOrder.sublist {pieces more : List Text} {text : Text}
    (sub : pieces.Sublist more) (occurs : OccursInOrder more text) : OccursInOrder pieces text := by
  induction sub generalizing text with
  | slnil => trivial
  | cons piece sub ih =>
      obtain ⟨before, after, rfl, rest⟩ := occurs
      exact (ih rest).prepend (before ++ piece)
  | cons_cons piece sub ih =>
      obtain ⟨before, after, rfl, rest⟩ := occurs
      exact ⟨before, after, rfl, ih rest⟩

theorem OccursInOrder.self (piece : Text) : OccursInOrder [piece] piece :=
  ⟨[], [], (List.append_nil piece).symm, trivial⟩

def ShownIn (pieces : List Text) (text : Text) : Prop :=
  OccursInOrder (pieces.map squeeze) (squeeze text)

namespace ShownIn

variable {pieces : List Text} {text : Text}

theorem none (text : Text) : ShownIn [] text := trivial

theorem self (piece : Text) : ShownIn [piece] piece :=
  ⟨[], [], by simp only [List.nil_append, List.append_nil], trivial⟩

theorem append {first second : List Text} {more : Text} (earlier : ShownIn first text)
    (later : ShownIn second more) : ShownIn (first ++ second) (text ++ more) := by
  rw [ShownIn, List.map_append, squeeze_append]
  exact OccursInOrder.append earlier later

theorem before (front : Text) (shown : ShownIn pieces text) : ShownIn pieces (front ++ text) :=
  (none front).append shown

theorem after (back : Text) (shown : ShownIn pieces text) : ShownIn pieces (text ++ back) := by
  have both := shown.append (none back)
  rwa [List.append_nil] at both

theorem of_squeeze {other : Text} (same : squeeze other = squeeze text)
    (shown : ShownIn pieces text) : ShownIn pieces other := by
  rwa [ShownIn, same]

end ShownIn
end Compositor.Text

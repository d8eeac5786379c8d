import Mathlib.Data.List.Basic

/-! Spans between delimiters, found from the left. A span opens wherever a delimiter is followed by a
symbol or more on one line and then by a delimiter again; it ends at the first such one, and the
search goes on behind it. This divides every sequence of symbols in one way only. -/

namespace Compositor.Text

inductive Portion (Symbol : Type) where
  | single (symbol : Symbol)
  | span (content : List Symbol)

variable {Symbol : Type} {delimiter : List Symbol} {lineEnd : Symbol}

/-- A span with this content stands at the start of a text and leaves the rest. -/
structure Opens (delimiter : List Symbol) (lineEnd : Symbol) (text content rest : List Symbol) :
    Prop where
  shape : text = delimiter ++ content ++ delimiter ++ rest
  filled : content ≠ []
  oneLine : lineEnd ∉ content
  shortest : ∀ other behind, other ≠ [] → text = delimiter ++ other ++ delimiter ++ behind →
    content.length ≤ other.length

inductive DividesInto (delimiter : List Symbol) (lineEnd : Symbol) :
    List Symbol → List (Portion Symbol) → Prop
  | nil : DividesInto delimiter lineEnd [] []
  | span {text content rest parts} : Opens delimiter lineEnd text content rest →
      DividesInto delimiter lineEnd rest parts →
      DividesInto delimiter lineEnd text (.span content :: parts)
  | single {symbol rest parts} :
      (∀ content behind, ¬ Opens delimiter lineEnd (symbol :: rest) content behind) →
      DividesInto delimiter lineEnd rest parts →
      DividesInto delimiter lineEnd (symbol :: rest) (.single symbol :: parts)

theorem Opens.unique {text first second behind rest : List Symbol}
    (one : Opens delimiter lineEnd text first behind)
    (other : Opens delimiter lineEnd text second rest) : first = second ∧ behind = rest := by
  have below := one.shortest second rest other.filled other.shape
  have above := other.shortest first behind one.filled one.shape
  have same := one.shape.symm.trans other.shape
  simp only [List.append_assoc, List.append_cancel_left_eq] at same
  obtain ⟨content, after⟩ := List.append_inj same (by omega)
  exact ⟨content, List.append_cancel_left after⟩

theorem Opens.nonempty {content rest : List Symbol} :
    ¬ Opens delimiter lineEnd [] content rest := by
  intro opens
  have shape := opens.shape
  simp only [List.nil_eq, List.append_eq_nil_iff] at shape
  exact opens.filled shape.1.1.2

theorem DividesInto.unique {text : List Symbol} {first second : List (Portion Symbol)}
    (one : DividesInto delimiter lineEnd text first)
    (other : DividesInto delimiter lineEnd text second) : first = second := by
  induction one generalizing second with
  | nil =>
      cases other with
      | nil => rfl
      | span opens _ => exact absurd opens Opens.nonempty
  | span opens _ ih =>
      cases other with
      | nil => exact absurd opens Opens.nonempty
      | span again rest =>
          obtain ⟨rfl, rfl⟩ := opens.unique again
          rw [ih rest]
      | single closed _ => exact absurd opens (closed _ _)
  | single closed _ ih =>
      cases other with
      | span opens _ => exact absurd opens (closed _ _)
      | single _ rest => rw [ih rest]

/-- The shortest content is the one in which no delimiter starts behind the first symbol, not even
one that runs into the closing delimiter. -/
theorem opens_iff (filled : delimiter ≠ []) {text content rest : List Symbol} :
    Opens delimiter lineEnd text content rest ↔
      text = delimiter ++ content ++ delimiter ++ rest ∧ content ≠ [] ∧ lineEnd ∉ content ∧
        ¬ delimiter <:+: content.tail ++ delimiter.dropLast := by
  have parted := List.dropLast_concat_getLast filled
  constructor
  · rintro ⟨shape, contentFilled, oneLine, shortest⟩
    refine ⟨shape, contentFilled, oneLine, ?_⟩
    rintro ⟨front, behind, early⟩
    cases content with
    | nil => exact contentFilled rfl
    | cons first content =>
        rw [List.tail_cons] at early
        have earlier : content ++ delimiter ++ rest =
            front ++ delimiter ++ (behind ++ [delimiter.getLast filled] ++ rest) := by
          calc
            content ++ delimiter ++ rest =
                content ++ delimiter.dropLast ++ [delimiter.getLast filled] ++ rest := by
              rw [List.append_assoc content delimiter.dropLast, parted]
            _ = front ++ delimiter ++ (behind ++ [delimiter.getLast filled] ++ rest) := by
              rw [← early]
              simp only [List.append_assoc]
        have split : text = delimiter ++ (first :: front) ++ delimiter ++
            (behind ++ [delimiter.getLast filled] ++ rest) := by
          simp only [List.append_assoc] at earlier
          simp only [shape, List.append_assoc, List.cons_append, earlier]
        have bound := shortest _ _ (List.cons_ne_nil _ _) split
        have lengths := congrArg List.length early
        have positive := List.length_pos_iff.mpr filled
        simp only [List.length_append, List.length_dropLast, List.length_cons] at bound lengths
        omega
  · rintro ⟨shape, contentFilled, oneLine, late⟩
    refine ⟨shape, contentFilled, oneLine, ?_⟩
    intro other behind otherFilled split
    by_contra longer
    rw [shape] at split
    simp only [List.append_assoc, List.append_cancel_left_eq] at split
    obtain ⟨inner, rfl⟩ : other <+: content :=
      List.prefix_of_prefix_length_le ⟨_, split.symm⟩ ⟨_, rfl⟩ (by omega)
    cases other with
    | nil => exact otherFilled rfl
    | cons first other =>
        simp only [List.append_assoc, List.cons_append, List.cons.injEq, true_and,
          List.append_cancel_left_eq] at split
        have start : delimiter <+: inner ++ delimiter.dropLast := by
          refine List.prefix_of_prefix_length_le ⟨behind, split.symm⟩
            ⟨[delimiter.getLast filled] ++ rest, ?_⟩ ?_
          · rw [List.append_assoc, ← List.append_assoc delimiter.dropLast, parted]
          · simp only [List.length_append, List.length_cons, List.length_dropLast] at longer ⊢
            omega
        obtain ⟨after, shape⟩ := start
        refine late ⟨other, after, ?_⟩
        rw [List.append_assoc, shape, List.cons_append, List.tail_cons, List.append_assoc]

theorem exists_opens {text content rest : List Symbol}
    (shape : text = delimiter ++ content ++ delimiter ++ rest) (filled : content ≠ [])
    (oneLine : lineEnd ∉ content) : ∃ content rest, Opens delimiter lineEnd text content rest := by
  generalize size : content.length = length
  induction length using Nat.strongRecOn generalizing content rest with
  | ind length ih =>
      by_cases shortest : ∀ other behind, other ≠ [] →
          text = delimiter ++ other ++ delimiter ++ behind → content.length ≤ other.length
      · exact ⟨content, rest, shape, filled, oneLine, shortest⟩
      · push Not at shortest
        obtain ⟨other, behind, otherFilled, split, shorter⟩ := shortest
        have same := shape.symm.trans split
        simp only [List.append_assoc, List.append_cancel_left_eq] at same
        have before : other <+: content :=
          List.prefix_of_prefix_length_le ⟨_, same.symm⟩ ⟨_, rfl⟩ (by omega)
        exact ih other.length (by omega) split otherFilled
          (fun inside => oneLine (before.subset inside)) rfl

theorem Opens.first {first symbol : Symbol} {delimiter rest content behind : List Symbol}
    (opens : Opens (first :: delimiter) lineEnd (symbol :: rest) content behind) :
    symbol = first := by
  have shape := opens.shape
  simp only [List.append_assoc, List.cons_append, List.cons.injEq] at shape
  exact shape.1

def Portion.source (delimiter : List Symbol) : Portion Symbol → List Symbol
  | .single symbol => [symbol]
  | .span content => delimiter ++ content ++ delimiter

theorem DividesInto.opens {text content : List Symbol} {after : List (Portion Symbol)}
    (divides : DividesInto delimiter lineEnd text (.span content :: after)) :
    ∃ rest, Opens delimiter lineEnd text content rest := by
  cases divides with
  | span opens _ => exact ⟨_, opens⟩

theorem DividesInto.closed {text : List Symbol} {symbol : Symbol} {after : List (Portion Symbol)}
    (divides : DividesInto delimiter lineEnd text (.single symbol :: after)) :
    ∀ content rest, ¬ Opens delimiter lineEnd text content rest := by
  cases divides with
  | single closed _ => exact closed

theorem DividesInto.source {text : List Symbol} {parts : List (Portion Symbol)}
    (divides : DividesInto delimiter lineEnd text parts) :
    parts.flatMap (Portion.source delimiter) = text := by
  induction divides with
  | nil => rfl
  | span opens _ ih => rw [List.flatMap_cons, ih, Portion.source, opens.shape]
  | single _ _ ih => rw [List.flatMap_cons, ih, Portion.source, List.singleton_append]

theorem DividesInto.suffix {text : List Symbol} {parts after : List (Portion Symbol)}
    (divides : DividesInto delimiter lineEnd text parts) (behind : after <:+ parts) :
    DividesInto delimiter lineEnd (after.flatMap (Portion.source delimiter)) after := by
  induction divides with
  | nil =>
      rw [List.suffix_nil.mp behind]
      exact .nil
  | span opens rest ih =>
      rcases List.suffix_cons_iff.mp behind with rfl | later
      · rw [(DividesInto.span opens rest).source]
        exact .span opens rest
      · exact ih later
  | single closed rest ih =>
      rcases List.suffix_cons_iff.mp behind with rfl | later
      · rw [(DividesInto.single closed rest).source]
        exact .single closed rest
      · exact ih later

theorem DividesInto.singles {first : Symbol} {delimiter text : List Symbol}
    (without : first ∉ text) :
    DividesInto (first :: delimiter) lineEnd text (text.map .single) := by
  induction text with
  | nil => exact .nil
  | cons symbol text ih =>
      rw [List.mem_cons, not_or] at without
      exact .single (fun _ _ opens => without.1 opens.first.symm) (ih without.2)

end Compositor.Text

import Compositor.Proofs.Markup.EmphasisSpans
import Compositor.Proofs.Markup.OffsetScan
import Mathlib.Data.List.Chain

/-! The runs of a text between delimiters. Written back they are the text; in the content of a span
no delimiter starts behind the first character; and no delimiter that is left in a literal could have
opened a span. This divides every text in one way only, and a scan through its bytes finds this
division. -/

namespace Compositor.Markup

open Text

def Run.IsLiteral (run : Run) : Prop := ∃ text, run = .literal text

structure Joined (runs : List Run) : Prop where
  filled : ∀ content, .literal content ∈ runs → content ≠ []
  apart : runs.IsChain fun first second => ¬ (first.IsLiteral ∧ second.IsLiteral)

/-- What stands in a span. A delimiter that starts behind the first character would end it, even one
that runs into the closing delimiter. -/
structure IsContent (delimiter content : Text) : Prop where
  filled : content ≠ []
  oneLine : '\n' ∉ content
  shortest : ¬ delimiter <:+: content.tail ++ delimiter.dropLast

/-- No span opens before this text: each delimiter in it, from the second character on, lies behind a
line feed. -/
def Unopened (delimiter following : Text) : Prop :=
  ∀ content rest, content ≠ [] → following = content ++ delimiter ++ rest → '\n' ∈ content

/-- Text that is left literal before other text. A delimiter that starts in it opens nothing, even one
that runs into what follows. -/
def StaysLiteral (delimiter content following : Text) : Prop :=
  ∀ behind, behind ≠ [] → behind <:+ content →
    ∀ ahead, behind ++ following = delimiter ++ ahead → Unopened delimiter ahead

structure Delimits (delimiter text : Text) (runs : List Run) : Prop where
  source : runs.flatMap (Run.source delimiter) = text
  joined : Joined runs
  contents : ∀ content, .span content ∈ runs → IsContent delimiter content
  literals : ∀ content after, .literal content :: after <:+ runs →
    StaysLiteral delimiter content (after.flatMap (Run.source delimiter))

/-! Joined runs. -/

section
variable {content : Text} {run : Run} {after : List Run}

theorem Joined.tail (joined : Joined (run :: after)) : Joined after where
  filled := fun content member => joined.filled content (.tail _ member)
  apart := (List.isChain_cons.mp joined.apart).2

theorem Joined.stops (joined : Joined (.literal content :: after)) :
    ∀ next ∈ after.head?, ¬ next.IsLiteral := by
  intro next isNext literal
  exact (List.isChain_cons.mp joined.apart).1 next isNext ⟨⟨content, rfl⟩, literal⟩

theorem Joined.literal (joined : Joined after) (filled : content ≠ [])
    (stops : ∀ next ∈ after.head?, ¬ next.IsLiteral) : Joined (.literal content :: after) := by
  constructor
  · intro text member
    rcases List.mem_cons.mp member with same | later
    · cases same
      exact filled
    · exact joined.filled text later
  · refine List.isChain_cons.mpr ⟨?_, joined.apart⟩
    intro next isNext both
    exact stops next isNext both.2

theorem Joined.span (joined : Joined after) (content : Text) : Joined (.span content :: after) := by
  constructor
  · intro text member
    rcases List.mem_cons.mp member with same | later
    · cases same
    · exact joined.filled text later
  · refine List.isChain_cons.mpr ⟨?_, joined.apart⟩
    rintro next isNext ⟨⟨text, same⟩, -⟩
    cases same

theorem Joined.consLiteral (joined : Joined after) (character : Char) :
    Joined (consLiteral character after) := by
  unfold Markup.consLiteral
  split
  next text more => exact joined.tail.literal (List.cons_ne_nil _ _) joined.stops
  next noLiteral =>
    refine joined.literal (List.cons_ne_nil _ _) ?_
    rintro next isNext ⟨text, rfl⟩
    obtain ⟨more, rfl⟩ := List.head?_eq_some_iff.mp isNext
    exact noLiteral text more rfl

theorem pass_literal (filled : content ≠ []) (stops : ∀ next ∈ after.head?, ¬ next.IsLiteral) :
    pass content after = .literal content :: after := by
  induction content with
  | nil => exact absurd rfl filled
  | cons character content ih =>
      rw [pass_cons]
      cases content with
      | cons next content =>
          rw [ih (List.cons_ne_nil _ _)]
          rfl
      | nil =>
          change consLiteral character after = _
          unfold consLiteral
          split
          next text more => exact absurd ⟨text, rfl⟩ (stops (.literal text) rfl)
          next => rfl

end

/-! The runs that some parts make up. -/

def ofParts : List (Portion Char) → List Run
  | [] => []
  | .single character :: parts => consLiteral character (ofParts parts)
  | .span content :: parts => .span content :: ofParts parts

theorem ofParts_joined (parts : List (Portion Char)) : Joined (ofParts parts) := by
  induction parts with
  | nil => exact ⟨by simp [ofParts], .nil⟩
  | cons part parts ih =>
      cases part with
      | single character => exact ih.consLiteral character
      | span content => exact ih.span content

theorem ofParts_literal (text : Text) (parts : List (Portion Char)) :
    ofParts (text.map .single ++ parts) = pass text (ofParts parts) := by
  induction text with
  | nil => rfl
  | cons character text ih => exact congrArg (consLiteral character) ih

theorem ofParts_parts {runs : List Run} (joined : Joined runs) :
    ofParts (runs.flatMap Run.parts) = runs := by
  induction runs with
  | nil => rfl
  | cons run runs ih =>
      rw [List.flatMap_cons]
      cases run with
      | span content => rw [Run.parts, List.singleton_append, ofParts, ih joined.tail]
      | literal content =>
          rw [Run.parts, ofParts_literal, ih joined.tail,
            pass_literal (joined.filled content (.head _)) joined.stops]

theorem ofParts_runs (delimiter text : Text) :
    ofParts ((runs delimiter text).flatMap Run.parts) = runs delimiter text := by
  fun_induction runs delimiter text with
  | case1 => rfl
  | case2 character rest noDelimiter ih => rw [consLiteral_parts, ofParts, ih]
  | case3 character rest inner opened content after closed ih =>
      rw [List.flatMap_cons, Run.parts, List.singleton_append, ofParts, ih]
  | case4 character rest inner opened notClosed ih => rw [consLiteral_parts, ofParts, ih]

theorem singles_source (delimiter text : Text) :
    (text.map .single).flatMap (Portion.source delimiter) = text := by
  rw [List.flatMap_map]
  exact List.flatMap_singleton' text

theorem parts_source (delimiter : Text) (runs : List Run) :
    (runs.flatMap Run.parts).flatMap (Portion.source delimiter) =
      runs.flatMap (Run.source delimiter) := by
  rw [List.flatMap_assoc]
  congr 1
  funext run
  cases run with
  | literal text => exact singles_source delimiter text
  | span content => exact List.append_nil _

/-! The division of a text. -/

section
variable {delimiter text : Text} {found : List Run}

theorem Unopened.not_opens {following content rest : Text} (unopened : Unopened delimiter following) :
    ¬ Opens delimiter '\n' (delimiter ++ following) content rest := by
  intro opens
  have shape := opens.shape
  simp only [List.append_assoc, List.append_cancel_left_eq] at shape
  rw [← List.append_assoc] at shape
  exact opens.oneLine (unopened content rest opens.filled shape)

theorem unopened_of_not_opens {following : Text}
    (closed : ∀ content rest, ¬ Opens delimiter '\n' (delimiter ++ following) content rest) :
    Unopened delimiter following := by
  intro content rest filled shape
  by_contra oneLine
  have whole : delimiter ++ following = delimiter ++ content ++ delimiter ++ rest := by
    rw [shape]
    simp only [List.append_assoc]
  obtain ⟨content, rest, opens⟩ := exists_opens whole filled oneLine
  exact closed content rest opens

theorem StaysLiteral.divides {content following : Text} {parts : List (Portion Char)}
    (stays : StaysLiteral delimiter content following)
    (divides : DividesInto delimiter '\n' following parts) :
    DividesInto delimiter '\n' (content ++ following) (content.map .single ++ parts) := by
  induction content with
  | nil => exact divides
  | cons character content ih =>
      refine .single ?_ (ih fun behind filled suffix =>
        stays behind filled (suffix.trans (List.suffix_cons _ _)))
      intro inner rest opens
      have shape := opens.shape
      simp only [List.append_assoc] at shape
      have unopened := stays (character :: content) (List.cons_ne_nil _ _) List.suffix_rfl _ shape
      rw [shape] at opens
      exact unopened.not_opens opens

theorem Delimits.divides (filled : delimiter ≠ []) (delimits : Delimits delimiter text found) :
    DividesInto delimiter '\n' text (found.flatMap Run.parts) := by
  have each (after : List Run) (suffix : after <:+ found) :
      DividesInto delimiter '\n' (after.flatMap (Run.source delimiter))
        (after.flatMap Run.parts) := by
    induction after with
    | nil => exact .nil
    | cons run after ih =>
        have rest := ih ((List.suffix_cons _ _).trans suffix)
        cases run with
        | literal content => exact (delimits.literals content after suffix).divides rest
        | span content =>
            have isContent := delimits.contents content (suffix.subset (.head _))
            exact .span ((opens_iff filled).mpr
              ⟨rfl, isContent.filled, isContent.oneLine, isContent.shortest⟩) rest
  have whole := each found List.suffix_rfl
  rwa [delimits.source] at whole

theorem runs_isContent (filled : delimiter ≠ []) {content : Text}
    (member : .span content ∈ runs delimiter text) : IsContent delimiter content := by
  obtain ⟨front, after, shape⟩ := List.append_of_mem member
  have suffix : .span content :: after.flatMap Run.parts <:+
      (runs delimiter text).flatMap Run.parts := by
    refine ⟨front.flatMap Run.parts, ?_⟩
    rw [shape, List.flatMap_append]
    rfl
  obtain ⟨rest, opens⟩ := ((runs_divide delimiter text).suffix suffix).opens
  obtain ⟨-, contentFilled, oneLine, shortest⟩ := (opens_iff filled).mp opens
  exact ⟨contentFilled, oneLine, shortest⟩

theorem runs_stayLiteral {content : Text} {after : List Run}
    (isSuffix : .literal content :: after <:+ runs delimiter text) :
    StaysLiteral delimiter content (after.flatMap (Run.source delimiter)) := by
  rintro behind filled ⟨before, rfl⟩ ahead starts
  obtain ⟨front, shape⟩ := isSuffix
  have suffix : behind.map .single ++ after.flatMap Run.parts <:+
      (runs delimiter text).flatMap Run.parts := by
    refine ⟨front.flatMap Run.parts ++ before.map .single, ?_⟩
    rw [← shape, List.flatMap_append, List.flatMap_cons, Run.parts, List.map_append]
    simp only [List.append_assoc]
  have divides := (runs_divide delimiter text).suffix suffix
  rw [List.flatMap_append, singles_source, parts_source, starts] at divides
  cases behind with
  | nil => exact absurd rfl filled
  | cons character behind => exact unopened_of_not_opens divides.closed

theorem runs_delimits (filled : delimiter ≠ []) (text : Text) :
    Delimits delimiter text (runs delimiter text) where
  source := runs_source delimiter text
  joined := by
    rw [← ofParts_runs]
    exact ofParts_joined _
  contents := fun _ member => runs_isContent filled member
  literals := fun _ _ isSuffix => runs_stayLiteral isSuffix

theorem Delimits.eq_runs (filled : delimiter ≠ []) (delimits : Delimits delimiter text found) :
    found = runs delimiter text := by
  have same := (delimits.divides filled).unique (runs_divide delimiter text)
  rw [← ofParts_parts delimits.joined, same, ofParts_runs]

end

/-- The scan through the bytes of a text comes to its end without cutting a character, and the runs
that it passes are the only ones that delimit the text. -/
theorem runs_leftmost {delimiter : Text} (filled : delimiter ≠ []) (text : Text) :
    (OffsetScan delimiter text (runs delimiter text) ∧
      Delimits delimiter text (runs delimiter text)) ∧
      ∀ found, OffsetScan delimiter text found ∨ Delimits delimiter text found →
        found = runs delimiter text := by
  refine ⟨⟨offsetScan_runs filled text, runs_delimits filled text⟩, ?_⟩
  rintro found (scan | delimits)
  · exact scan.unique (offsetScan_runs filled text)
  · exact delimits.eq_runs filled

/-- The first two asterisks stand before a line feed; of three, the third is left over or is content;
and behind the last two nothing follows. -/
theorem runs_leftmost_asterisks :
    let delimiter : Text := "**"
    let text : Text := "**\n** ***é*** x****"
    let divided : List Run :=
      [.literal "**\n", .span " ", .literal "*é", .span "* x", .literal "**"]
    delimiter ≠ [] ∧ OffsetScan delimiter text divided ∧ Delimits delimiter text divided := by
  intro delimiter text divided
  have filled : delimiter ≠ [] := by decide
  have same : runs delimiter text = divided := by decide +kernel
  have leftmost := (runs_leftmost filled text).1
  rw [same] at leftmost
  exact ⟨filled, leftmost⟩

end Compositor.Markup

import Compositor.Proofs.Markup.BoldRestoring
import Mathlib.Data.List.Forall2

/-! What the emphasis of a cell is meant to be, and when it is. A text divides into characters and
bold spans, and with each bold span as one symbol, into symbols and italic spans. The markup of this
division is what is written, unless the text between two bold spans is the number of an earlier
one. -/

namespace Compositor.Markup

open Text

def symbolMarkup : Symbol → Text
  | .inl character => [character]
  | .inr content => bold content

def Portion.markup : Portion Symbol → Text
  | .single symbol => symbolMarkup symbol
  | .span content => '_' :: content.flatMap symbolMarkup ++ ['_']

structure Reads (text : Text) (boldParts : List (Portion Char)) (italicParts : List (Portion Symbol)) :
    Prop where
  bold : DividesInto ['*', '*'] '\n' text boldParts
  italic : DividesInto [.inl '*'] (.inl '\n') (boldParts.map Portion.symbol) italicParts

/-! The second pass changes asterisks only. -/

inductive Passed : Symbol → Symbol → Prop
  | same (symbol : Symbol) : Passed symbol symbol
  | mark : Passed (.inl '*') (.inl '_')

theorem forall₂_passed_refl (symbols : List Symbol) : List.Forall₂ Passed symbols symbols :=
  List.forall₂_same.mpr fun symbol _ => .same symbol

theorem italic_passed {symbols : List Symbol} {parts : List (Portion Symbol)}
    (divides : DividesInto [.inl '*'] (.inl '\n') symbols parts) :
    List.Forall₂ Passed symbols (parts.flatMap Portion.italic) := by
  induction divides with
  | nil => exact .nil
  | @span text content rest parts opens _ ih =>
      rw [opens.shape, List.flatMap_cons]
      refine List.rel_append (List.rel_append (.cons .mark ?_) (.cons .mark .nil)) ih
      exact forall₂_passed_refl content
  | single _ _ ih => exact .cons (.same _) ih

theorem lead_passed {symbols others : List Symbol} (passed : List.Forall₂ Passed symbols others)
    {digits : Text} (numeric : ∀ digit ∈ digits, digit.isDigit = true) :
    digits = lead symbols ↔ digits = lead others := by
  induction passed generalizing digits with
  | nil => rfl
  | @cons symbol other symbols others one rest ih =>
      cases one with
      | same =>
          cases symbol with
          | inr content => rfl
          | inl character =>
              cases digits with
              | nil => simp [lead]
              | cons digit digits =>
                  have shorter := ih fun digit member => numeric digit (.tail _ member)
                  simp only [lead, List.cons.injEq, shorter]
      | mark =>
          cases digits with
          | nil => simp [lead]
          | cons digit digits =>
              have isDigit := numeric digit (.head _)
              simp only [lead, List.cons.injEq]
              constructor <;> rintro ⟨rfl, -⟩ <;> cases isDigit

/-- Spans with the same content, and with a number behind both or neither. -/
def BoldSpan.Agree (span other : BoldSpan) : Prop :=
  span.content = other.content ∧ ∀ number, ofNat number = span.behind ↔ ofNat number = other.behind

theorem boldSpans_passed {symbols others : List Symbol}
    (passed : List.Forall₂ Passed symbols others) :
    List.Forall₂ BoldSpan.Agree (boldSpans symbols) (boldSpans others) := by
  induction passed with
  | nil => exact .nil
  | @cons symbol other symbols others one rest ih =>
      cases one with
      | mark => exact ih
      | same =>
          cases symbol with
          | inl character => exact ih
          | inr content =>
              refine .cons ⟨rfl, fun number => ?_⟩ ih
              exact lead_passed rest fun _ => isDigit_of_mem_ofNat

theorem mem_inner_agree {spans others : List BoldSpan}
    (agree : List.Forall₂ BoldSpan.Agree spans others) (number : Nat) :
    ofNat number ∈ spans.dropLast.map BoldSpan.behind ↔
      ofNat number ∈ others.dropLast.map BoldSpan.behind := by
  induction agree with
  | nil => rfl
  | @cons span other spans others one rest ih =>
      cases rest with
      | nil => rfl
      | cons _ _ =>
          simp only [List.dropLast_cons_cons, List.map_cons, List.mem_cons] at ih ⊢
          rw [one.2 number, ih]

theorem clashes_agree {spans others : List BoldSpan}
    (agree : List.Forall₂ BoldSpan.Agree spans others) (index : Nat) :
    Clashes index spans ↔ Clashes index others := by
  induction agree generalizing index with
  | nil => rfl
  | cons one rest ih => rw [Clashes, Clashes, mem_inner_agree rest index, ih]

theorem contents_agree {spans others : List BoldSpan}
    (agree : List.Forall₂ BoldSpan.Agree spans others) :
    spans.map BoldSpan.content = others.map BoldSpan.content := by
  induction agree with
  | nil => rfl
  | cons one rest ih => rw [List.map_cons, List.map_cons, one.1, ih]

/-! No part holds a null character. -/

def SymbolPlain (symbol : Symbol) : Prop := '\x00' ∉ symbolMarkup symbol

theorem symbols_plain {text : Text} {parts : List (Portion Char)}
    (divides : DividesInto ['*', '*'] '\n' text parts) (plain : '\x00' ∉ text) :
    ∀ symbol ∈ parts.map Portion.symbol, SymbolPlain symbol := by
  induction divides with
  | nil =>
      intro symbol member
      cases member
  | @span text content rest parts opens _ ih =>
      rw [opens.shape] at plain
      simp only [List.mem_append, not_or] at plain
      refine List.forall_mem_cons.mpr ⟨?_, ih plain.2⟩
      simp [SymbolPlain, Portion.symbol, symbolMarkup, bold, plain.1.1.2]
  | @single character rest parts _ _ ih =>
      rw [List.mem_cons, not_or] at plain
      refine List.forall_mem_cons.mpr ⟨?_, ih plain.2⟩
      simp [SymbolPlain, Portion.symbol, symbolMarkup, plain.1]

theorem plain_passed {symbols others : List Symbol} (passed : List.Forall₂ Passed symbols others)
    (plain : ∀ symbol ∈ symbols, SymbolPlain symbol) : ∀ symbol ∈ others, SymbolPlain symbol := by
  induction passed with
  | nil => exact plain
  | @cons symbol other symbols others one rest ih =>
      obtain ⟨first, more⟩ := List.forall_mem_cons.mp plain
      refine List.forall_mem_cons.mpr ⟨?_, ih more⟩
      cases one with
      | same => exact first
      | mark => simp [SymbolPlain, symbolMarkup]

theorem symbols_markup (symbols : List Symbol) :
    symbols.flatMap symbolMarkup = lead symbols ++ (boldSpans symbols).flatMap BoldSpan.markup := by
  induction symbols with
  | nil => rfl
  | cons symbol symbols ih =>
      rw [List.flatMap_cons, ih]
      cases symbol with
      | inl character => rfl
      | inr content =>
          rw [lead, boldSpans, List.flatMap_cons, BoldSpan.markup, List.append_assoc]
          rfl

theorem lead_plain {symbols : List Symbol} (plain : ∀ symbol ∈ symbols, SymbolPlain symbol) :
    '\x00' ∉ lead symbols ∧ ∀ span ∈ boldSpans symbols, span.Plain := by
  induction symbols with
  | nil => simp [lead, boldSpans]
  | cons symbol symbols ih =>
      obtain ⟨first, rest⟩ := List.forall_mem_cons.mp plain
      obtain ⟨leadPlain, spansPlain⟩ := ih rest
      cases symbol with
      | inl character =>
          refine ⟨?_, spansPlain⟩
          simp only [SymbolPlain, symbolMarkup, List.mem_singleton] at first
          rw [lead, List.mem_cons, not_or]
          exact ⟨first, leadPlain⟩
      | inr content =>
          simp only [SymbolPlain, symbolMarkup, bold, List.mem_cons, List.mem_append,
            not_or] at first
          refine ⟨List.not_mem_nil, ?_⟩
          exact List.forall_mem_cons.mpr ⟨⟨first.2.1, leadPlain⟩, spansPlain⟩

theorem italic_markup (parts : List (Portion Symbol)) :
    (parts.flatMap Portion.italic).flatMap symbolMarkup = parts.flatMap Portion.markup := by
  rw [List.flatMap_assoc]
  congr 1
  funext part
  cases part with
  | single symbol => exact List.append_nil _
  | span content =>
      simp only [Portion.italic, Portion.markup, List.flatMap_cons, List.flatMap_append, symbolMarkup,
        List.flatMap_nil, List.cons_append, List.nil_append, List.append_nil]

theorem emphasize_eq (text : Text) :
    let symbols := ((runs ['*', '*'] text).flatMap Run.parts).map Portion.symbol
    emphasize text =
      restoreBold 0 (boldContents symbols) ((runs star (spell 0 symbols)).flatMap italicRun) := by
  have aside := setBoldAside_eq 0 (runs ['*', '*'] text)
  have whole : emphasize text =
      restoreBold 0 (setBoldAside 0 (runs ['*', '*'] text)).2
        ((runs star (setBoldAside 0 (runs ['*', '*'] text)).1).flatMap italicRun) := rfl
  rw [whole, aside]

/-- Every text is read in one way. Its emphasis is the markup of this reading if and only if no
literal text between two bold spans is the number of a span before them; else a mark is left. -/
theorem emphasize_reading {text : Text} (plain : '\x00' ∉ text) :
    (∃ boldParts italicParts, Reads text boldParts italicParts) ∧
      ∀ boldParts italicParts, Reads text boldParts italicParts →
        let spans := boldSpans (boldParts.map Portion.symbol)
        (emphasize text = italicParts.flatMap Portion.markup ↔ ¬ Clashes 0 spans) ∧
          ('\x00' ∈ emphasize text ↔ Clashes 0 spans) := by
  have divided := runs_divide ['*', '*'] text
  obtain ⟨parts, italic, markup⟩ :=
    runs_spell 0 (((runs ['*', '*'] text).flatMap Run.parts).map Portion.symbol)
  refine ⟨⟨_, parts, divided, italic⟩, ?_⟩
  intro boldParts italicParts reads spans
  obtain rfl := divided.unique reads.bold
  obtain rfl := italic.unique reads.italic
  have passed := italic_passed italic
  have agree := boldSpans_passed passed
  have italicPlain := plain_passed passed (symbols_plain divided plain)
  have markupPlain : '\x00' ∉ parts.flatMap Portion.markup := by
    rw [← italic_markup, List.mem_flatMap]
    rintro ⟨symbol, member, mark⟩
    exact italicPlain symbol member mark
  obtain ⟨leadPlain, spansPlain⟩ := lead_plain italicPlain
  have restored := @restoreBold_spans 0 _ _ leadPlain spansPlain
  rw [← spell_eq_join, ← contents_agree agree, ← boldContents_eq, ← markup, ← emphasize_eq,
    ← symbols_markup, italic_markup, ← clashes_agree agree] at restored
  rcases restored with ⟨clash, marked⟩ | ⟨clear, done⟩
  · refine ⟨⟨?_, absurd clash⟩, ⟨fun _ => clash, fun _ => marked⟩⟩
    intro done
    rw [done] at marked
    exact absurd marked markupPlain
  · refine ⟨⟨fun _ => clear, fun _ => done⟩, ⟨?_, fun clash => absurd clash clear⟩⟩
    intro marked
    rw [done] at marked
    exact absurd marked markupPlain

def nestedEmphasis : Text := ['*', 'b', '*', '*', 'a', '*', '*', '*']

theorem emphasize_reading_nested :
    '\x00' ∉ nestedEmphasis ∧
      Reads nestedEmphasis
        [.single '*', .single 'b', .span ['a'], .single '*']
        [.span [.inl 'b', .inr ['a']]] ∧
      emphasize nestedEmphasis = "_b*a*_".toList := by
  have plain : '\x00' ∉ nestedEmphasis := by decide
  have bold := runs_divide ['*', '*'] nestedEmphasis
  have runsShape : runs ['*', '*'] nestedEmphasis =
      [.literal ['*', 'b'], .span ['a'], .literal ['*']] := by decide +kernel
  rw [runsShape] at bold
  have opens :
      OpensItalic [.inl '*', .inl 'b', .inr ['a'], .inl '*'] [.inl 'b', .inr ['a']] [] := by
    refine ⟨rfl, by simp, by simp, ?_⟩
    intro other behind filled shape
    rcases other with _ | ⟨first, _ | ⟨second, other⟩⟩
    · exact absurd rfl filled
    · simp at shape
    · simp
  have reads : Reads nestedEmphasis [.single '*', .single 'b', .span ['a'], .single '*']
      [.span [.inl 'b', .inr ['a']]] := ⟨bold, .span opens .nil⟩
  refine ⟨plain, reads, ?_⟩
  exact ((emphasize_reading plain).2 _ _ reads).1.mpr (by simp [Clashes, boldSpans, Portion.symbol])

/-- The `0` between the second and the third span is taken for the middle of the first stand-in. -/
theorem emphasize_lostSpans :
    let text : Text := "**a** **b**0**c**"
    '\x00' ∉ text ∧ emphasize text = "*a* \x00BOLD\x001*a*2\x00BOLD\x00".toList ∧
      ∃ boldParts italicParts, Reads text boldParts italicParts ∧
        italicParts.flatMap Portion.markup = "*a* *b*0*c*".toList := by
  intro text
  have bold := runs_divide ['*', '*'] text
  have runsShape : runs ['*', '*'] text =
      [.span ['a'], .literal [' '], .span ['b'], .literal ['0'], .span ['c']] := by decide +kernel
  rw [runsShape] at bold
  refine ⟨by decide, by decide +kernel, _, _, ⟨bold, .singles ?_⟩, by decide +kernel⟩
  simp [Run.parts, Portion.symbol]

end Compositor.Markup

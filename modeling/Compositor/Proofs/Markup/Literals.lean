import Compositor.Markup.Conversion
import Compositor.Proofs.Markup.Figures
import Compositor.Proofs.Markup.Logos

/-! The string literals that a conversion builds from values it is given: the font, the logos and
the diagrams. These values are written as they are, while addresses of links are not, so a quote or
a backslash in one of them changes what its literal reads as. -/

namespace Compositor.Markup

open Text

def valueLiterals (setting : Setting) (nodes : List Node) : List Literal :=
  let titleMode := setting.style.titleMode nodes
  preambleLiterals setting.toPlaces setting.style ++
    (setting.diagrams.take (body setting titleMode nodes {}).2.diagramCursor).map fun diagram =>
      figureLiteral setting.output diagram.image

theorem convert_written (setting : Setting) (nodes : List Node) :
    OccursInOrder ((preambleLiterals setting.toPlaces setting.style).map Literal.written)
        (convert setting nodes).markup ∧
      ((∀ diagram ∈ setting.diagrams, '\n' ∉ Path.relativeTo diagram.image setting.output) →
        OccursInOrder ((valueLiterals setting nodes).map Literal.written)
          (convert setting nodes).markup) := by
  have before := preamble_written setting.toPlaces setting.style (setting.style.titleMode nodes)
  refine ⟨before.extend _, ?_⟩
  intro oneLine
  have behind := @body_written setting (setting.style.titleMode nodes) oneLine nodes
  unfold valueLiterals
  rw [List.map_append]
  exact before.append behind

/-- Exactly the plain values survive their literals. A line feed in the path of a diagram is left
out, since a list item indents what follows it. -/
theorem convert_literals (setting : Setting) (nodes : List Node) :
    StandInOrder (preambleLiterals setting.toPlaces setting.style) (convert setting nodes).markup ∧
      ((∀ diagram ∈ setting.diagrams, '\n' ∉ Path.relativeTo diagram.image setting.output) →
        StandInOrder (valueLiterals setting nodes) (convert setting nodes).markup ∧
          ((∀ literal ∈ valueLiterals setting nodes, isPlain literal.value = true) →
            ReadInOrder (valueLiterals setting nodes) (convert setting nodes).markup)) := by
  obtain ⟨before, all⟩ := convert_written setting nodes
  refine ⟨standInOrder_of_written before, ?_⟩
  intro oneLine
  have stand := standInOrder_of_written (all oneLine)
  exact ⟨stand, fun plain => readInOrder_of_plain plain stand⟩

theorem convert_literals_itemDiagram :
    let setting : Setting :=
      { output := "out"
        diagrams := [⟨"diagram-0", "out/diagrams/diagram-0.png"⟩]
        style := { font := some "Sans", footer := some { left := some "{logo:img/a.png}" } } }
    let nodes : List Node := [.list false [.listItem [.codeBlock (some "mermaid") "a --> b"]]]
    (valueLiterals setting nodes).map (·.value) =
        ["New Computer Modern Sans", "diagrams/a.png", "diagrams/diagram-0.png"].map
          String.toList ∧
      (∀ diagram ∈ setting.diagrams, '\n' ∉ Path.relativeTo diagram.image setting.output) ∧
      ReadInOrder (valueLiterals setting nodes) (convert setting nodes).markup := by
  intro setting nodes
  have oneLine : ∀ diagram ∈ setting.diagrams,
      '\n' ∉ Path.relativeTo diagram.image setting.output := by decide +kernel
  have plain : ∀ literal ∈ valueLiterals setting nodes, isPlain literal.value = true := by
    decide +kernel
  obtain ⟨stand, read⟩ := (convert_literals setting nodes).2 oneLine
  exact ⟨by decide +kernel, oneLine, read plain⟩

/-- With a quote in each of the values, no literal with such an opening reads as its value. -/
theorem convert_literals_quoted :
    let setting : Setting :=
      { output := "out"
        diagrams := [⟨"diagram-0", "out/diagrams/a\"b.png"⟩]
        style := { font := some "My \"Font", preventHeadingOrphans := false,
                   styleCodeBlocks := false, headingSpacing := ⟨none, none⟩,
                   footer := some { left := some r#"{logo:logo".png}"# } } }
    let nodes : List Node := [.codeBlock (some "mermaid") "a --> b"]
    let markup := (convert setting nodes).markup
    (valueLiterals setting nodes).map (·.value) =
        ["My \"Font", "diagrams/logo\".png", "diagrams/a\"b.png"].map String.toList ∧
      ∀ literal ∈ valueLiterals setting nodes, ∀ start ∈ markup.tails,
        ∀ opened ∈ stripStart? literal.opening start, ∀ read ∈ readLiteral? opened,
          read.1 ≠ literal.value := by
  decide +kernel

end Compositor.Markup

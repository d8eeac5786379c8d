import Compositor.CommandLine.Run
import Compositor.Proofs.Path.Extension

/-! The files that a run writes, beside the file that it reads. They are other files unless the
arguments say so, and the markup for a PDF goes beside it, under its stem. -/

namespace Compositor

open Compositor.Path

def markupExtension : Text := ['t', 'y', 'p']

theorem isExtension_markup : IsExtension markupExtension := by
  constructor <;> decide

/-- The ways in which arguments name the input as a file to be written. -/
inductive NamesInput (input : Path) : (output : Option Path) → Prop
  | unnamed (noName : fileName? input = none) : NamesInput input none
  | markup (isMarkup : extension? input = some markupExtension) : NamesInput input none
  | output {output : Path} (same : Same output input) : NamesInput input (some output)
  | beside {output : Path} {name : Text} (pdf : isPdf output = true)
      (named : fileName? output = some name)
      (there : components input =
        (components output).dropLast ++ [.normal (rename name markupExtension)]) :
      NamesInput input (some output)

namespace Targets

variable {input output pdf : Path}

theorem resolve_byDefault (input : Path) :
    resolve input none = ⟨withExtension input markupExtension, none⟩ := rfl

theorem resolve_pdf (isPdf : isPdf output = true) :
    resolve input (some output) = ⟨withExtension output markupExtension, some output⟩ :=
  if_pos isPdf

theorem resolve_markup (notPdf : ¬ isPdf output = true) :
    resolve input (some output) = ⟨output, none⟩ :=
  if_neg notPdf

theorem isPdf_named (isPdf : isPdf output = true) :
    ∃ name, fileName? output = some name ∧ extension? output ≠ some markupExtension := by
  unfold Compositor.isPdf at isPdf
  cases found : extension? output with
  | none =>
      rw [found] at isPdf
      cases isPdf
  | some extension =>
      rw [found] at isPdf
      have named := found
      rw [extension?, Option.bind_eq_some_iff] at named
      obtain ⟨name, isName, -⟩ := named
      refine ⟨name, isName, ?_⟩
      rw [Ne, Option.some.injEq]
      rintro rfl
      revert isPdf
      decide

theorem resolve_besidePdf {output : Option Path} (selected : (resolve input output).pdf = some pdf) :
    ¬ Same (resolve input output).typst pdf ∧
      parent? (resolve input output).typst = parent? pdf ∧
      stem? (resolve input output).typst = stem? pdf := by
  cases output with
  | none => cases selected
  | some output =>
      by_cases isPdf : isPdf output = true
      · rw [resolve_pdf isPdf] at selected ⊢
        obtain rfl := Option.some.inj selected
        obtain ⟨name, named, other⟩ := isPdf_named isPdf
        refine ⟨?_, parent?_withExtension named isExtension_markup,
          stem?_withExtension named isExtension_markup⟩
        intro same
        rw [← same.extension?, extension?_withExtension named isExtension_markup] at other
        exact other rfl
      · rw [resolve_markup isPdf] at selected
        cases selected

def files (targets : Targets) : List Path := targets.typst :: targets.pdf.toList

theorem resolve_apart {output : Option Path} (apart : ¬ NamesInput input output) :
    ∀ file ∈ (resolve input output).files, ¬ Same file input := by
  intro file isFile same
  refine apart ?_
  cases output with
  | none =>
      rw [resolve_byDefault, files, Option.toList_none, List.mem_singleton] at isFile
      subst isFile
      cases found : fileName? input with
      | none => exact .unnamed found
      | some name =>
          refine .markup ?_
          rw [← same.extension?, extension?_withExtension found isExtension_markup]
  | some output =>
      by_cases isPdf : isPdf output = true
      · rw [resolve_pdf isPdf, files, Option.toList_some, List.mem_cons, List.mem_singleton]
          at isFile
        rcases isFile with rfl | rfl
        · obtain ⟨name, named, -⟩ := isPdf_named isPdf
          refine .beside isPdf named ?_
          rw [← same, components_withExtension named isExtension_markup]
        · exact .output same
      · rw [resolve_markup isPdf, files, Option.toList_none, List.mem_singleton] at isFile
        subst isFile
        exact .output same

end Targets

namespace CommandLine

end CommandLine
end Compositor

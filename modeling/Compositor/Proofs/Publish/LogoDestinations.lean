import Compositor.Proofs.Publish.AssetQueue
import Mathlib.Data.List.Forall2

/-! Where the logos of a cell are copied to. A path whose last component is a name leads to a file of
the asset directory; any other path is joined to that directory as a whole and leads elsewhere. -/

namespace Compositor

namespace Path

/-- A path that adds one name to a directory, and no other step. -/
def IsEntry (directory path : Path) : Prop := ∃ name, IsName name ∧ path = join directory name

theorem IsEntry.named {directory path : Path} (isEntry : IsEntry directory (join directory path)) :
    ∃ name, fileName? path = some name := by
  obtain ⟨name, isName, same⟩ := isEntry
  refine ⟨name, ?_⟩
  by_cases absolute : isAbsolute path = true
  · rw [join, if_pos absolute] at same
    rw [same]
    exact fileName?_join isName.fileName? directory
  · rw [join_inj (Bool.eq_false_iff.mpr absolute) isName.relative] at same
    rw [same]
    exact isName.fileName?

end Path

namespace Markup

structure Filed (places : Places) (path : Path) (copy : AssetCopy) : Prop where
  source : copy.source = Path.join places.source path
  named : ∀ name, (Path.components path).getLast? = some (.normal name) →
    Path.IsName name ∧ copy.destination = Path.join places.assetDirectory name
  unnamed : (∀ name, (Path.components path).getLast? ≠ some (.normal name)) →
    copy.destination = Path.join places.assetDirectory path
  isEntry_iff : Path.IsEntry places.assetDirectory copy.destination ↔
    ∃ name, (Path.components path).getLast? = some (.normal name)

theorem logoCopy_filed (places : Places) (path : Path) :
    Filed places path (logoCopy places path) := by
  have unnamed (none : Path.fileName? path = none) :
      (logoCopy places path).destination = Path.join places.assetDirectory path := by
    simp only [logoCopy, none]
    rfl
  constructor
  · rfl
  · intro name last
    have named := Path.fileName?_iff_components.mpr last
    exact ⟨(Path.fileName?_segments named).1, logoCopy_destination named⟩
  · intro noName
    refine unnamed (Option.eq_none_iff_forall_ne_some.mpr ?_)
    intro name named
    exact noName name (Path.fileName?_iff_components.mp named)
  · simp only [← Path.fileName?_iff_components]
    constructor
    · intro isEntry
      cases found : Path.fileName? path with
      | some name => exact ⟨name, rfl⟩
      | none =>
          rw [unnamed found] at isEntry
          obtain ⟨name, named⟩ := isEntry.named
          exact ⟨name, found.symm.trans named⟩
    · rintro ⟨name, named⟩
      exact ⟨name, (Path.fileName?_segments named).1, logoCopy_destination named⟩

/-- Each logo of a cell has its copy, in the same order, and each copy goes into the asset directory
exactly if the path of its logo ends in a name. -/
theorem cellCopies_filed (places : Places) (text : Text) :
    List.Forall₂ (Filed places) (cellLogos text) (cellCopies places text) := by
  rw [cellLogos, cellCopies_tokens, List.forall₂_map_left_iff, List.forall₂_map_right_iff,
    List.forall₂_same]
  intro token _
  exact logoCopy_filed places token.path

/-- A logo that goes up is copied onto the output directory, the root onto the root. -/
theorem cellCopies_outside :
    let places : Places := { output := "/out", source := "/src" }
    let copies := cellCopies places "{logo:..} {logo:/}"
    copies = [⟨"/src/..", "/out/diagrams/.."⟩, ⟨"/", "/"⟩] ∧
      ∀ copy ∈ copies, ¬ Path.IsEntry places.assetDirectory copy.destination := by
  intro places copies
  have queued : copies = [logoCopy places "..", logoCopy places "/"] := by decide +kernel
  refine ⟨queued, ?_⟩
  intro copy isCopy
  rw [queued] at isCopy
  have last : (Path.components "..").getLast? = some .parent ∧
      (Path.components "/").getLast? = some .root := by decide +kernel
  rcases List.mem_pair.mp isCopy with rfl | rfl
  · rw [(logoCopy_filed places "..").isEntry_iff, last.1]
    simp
  · rw [(logoCopy_filed places "/").isEntry_iff, last.2]
    simp

end Markup
end Compositor

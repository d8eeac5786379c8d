import Compositor.Proofs.Publish.AssetQueue

/-! What a copy leaves of the file that it copies. A destination is emptied before the source is
read. So a copy that succeeds spares its source and delivers what was in it, unless its destination
leads to the source: then the file is empty afterwards, and nothing is reported. -/

namespace Compositor

open FileTree

theorem Machine.isFile_run (machine : Machine) (path : Path) (tree : FileTree) :
    (machine.system.isFile path).run tree = ((tree.read machine.working path).isOk, tree) := by
  simp only [System.isFile, Machine.system, StateT.run_bind, StateT.run_get, FileTree.entryAt?,
    FileTree.read]
  dsimp only [Bind.bind]
  cases tree.locate machine.working path with
  | error error => rfl
  | ok location =>
      dsimp only
      rcases tree.find? location with _ | _ | _ <;> rfl

namespace AssetCopy

variable {machine : Machine} {copy : AssetCopy} {tree : FileTree}

theorem perform_missing (missing : (tree.read machine.working copy.source).isOk = false) :
    copy.outcome machine tree = .error (.io copy.source "asset file not found") ∧
      copy.files machine tree = tree := by
  have answer := machine.isFile_run copy.source tree
  rw [missing] at answer
  have asked : (copy.perform machine.system).run.run tree =
      (.error (.io copy.source "asset file not found"), tree) := by
    have lifted :
        (liftM (machine.system.isFile copy.source) : Attempt (StateM FileTree) Bool).run.run tree =
          (.ok false, tree) :=
      congrArg (Prod.map Except.ok id) answer
    unfold AssetCopy.perform
    rw [ExceptT.run_bind, StateT.run_bind, lifted]
    rfl
  rw [outcome, files, asked]
  exact ⟨rfl, rfl⟩

theorem outcome_ok (done : copy.outcome machine tree = .ok ()) :
    ∃ content location target,
      tree.read machine.working copy.source = .ok content ∧
      (copy.files machine tree).locate machine.working copy.source = .ok location ∧
      (copy.files machine tree).locate machine.working copy.destination = .ok target ∧
      Keeps (· = target) tree (copy.files machine tree) ∧
      (copy.files machine tree).read machine.working copy.source =
        .ok (if target = location then [] else content) ∧
      (copy.files machine tree).read machine.working copy.destination =
        .ok (if target = location then [] else content) := by
  have isThere : ∃ content, tree.read machine.working copy.source = .ok content := by
    cases found : tree.read machine.working copy.source with
    | ok content => exact ⟨content, rfl⟩
    | error error =>
        have missing : (tree.read machine.working copy.source).isOk = false := by rw [found]; rfl
        rw [(perform_missing missing).1] at done
        cases done
  obtain ⟨content, was⟩ := isThere
  obtain ⟨middle, made, copied⟩ := (copy.perform_copiesLast machine).copies tree done
  obtain ⟨location, target, inMiddle, sourceExecutable, executable, located, file, targeted,
    written, filled⟩ := copy_writes copied
  -- Making directories has not changed the source.
  have wasThen : middle.read machine.working copy.source = .ok content :=
    made.read (fun _ _ => id) was
  have same : inMiddle = content := by
    have readThen := read_eq_ok_iff.mpr ⟨location, sourceExecutable, located, file⟩
    exact Except.ok.inj (readThen.symm.trans wasThen)
  subst same
  have targetLocated := written.locate (locate_of_locateFile targeted)
  refine ⟨inMiddle, location, target, was, written.locate located, targetLocated,
    (made.mono fun _ => False.elim).trans written, ?_,
    read_eq_ok_iff.mpr ⟨target, executable, targetLocated, filled⟩⟩
  by_cases ontoItself : target = location
  · subst ontoItself
    exact read_eq_ok_iff.mpr ⟨target, executable, written.locate located, filled⟩
  · rw [if_neg ontoItself]
    exact read_eq_ok_iff.mpr ⟨location, sourceExecutable, written.locate located,
      written.file (Ne.symm ontoItself) file⟩

/-! Damage. -/

def OntoItself (machine : Machine) (copy : AssetCopy) (tree : FileTree) : Prop :=
  ∃ location, tree.locate machine.working copy.source = .ok location ∧
    tree.locate machine.working copy.destination = .ok location

def Undamaged (machine : Machine) (copy : AssetCopy) (tree : FileTree) : Prop :=
  ∃ content, tree.read machine.working copy.source = .ok content ∧
    (copy.files machine tree).read machine.working copy.source = .ok content ∧
    (copy.files machine tree).read machine.working copy.destination = .ok content

structure Copied (machine : Machine) (copy : AssetCopy) (tree : FileTree) : Prop where
  others : Keeps (fun location =>
    (copy.files machine tree).locate machine.working copy.destination = .ok location)
    tree (copy.files machine tree)
  emptied (ontoItself : OntoItself machine copy (copy.files machine tree)) :
    (copy.files machine tree).read machine.working copy.source = .ok []
  undamaged_iff : Undamaged machine copy tree ↔
    (OntoItself machine copy (copy.files machine tree) →
      tree.read machine.working copy.source = .ok [])

structure Effects (machine : Machine) (copy : AssetCopy) (tree : FileTree) : Prop where
  missing (noFile : ∀ content, tree.read machine.working copy.source ≠ .ok content) :
    copy.outcome machine tree = .error (.io copy.source "asset file not found") ∧
      copy.files machine tree = tree
  failed (failure : Failure) (outcome : copy.outcome machine tree = .error failure) :
    Keeps (fun _ => False) tree (copy.files machine tree)
  copied (done : copy.outcome machine tree = .ok ()) : Copied machine copy tree

theorem copied_of_ok (done : copy.outcome machine tree = .ok ()) : Copied machine copy tree := by
  obtain ⟨content, location, target, was, located, targeted, written, ofSource, ofDestination⟩ :=
    outcome_ok done
  have ontoItself_iff : OntoItself machine copy (copy.files machine tree) ↔ target = location := by
    constructor
    · rintro ⟨there, sourceThere, destinationThere⟩
      rw [located] at sourceThere
      rw [targeted] at destinationThere
      exact Except.ok.inj (destinationThere.trans sourceThere.symm)
    · rintro rfl
      exact ⟨target, located, targeted⟩
  constructor
  case others =>
    refine written.mono ?_
    rintro there rfl
    exact targeted
  case emptied =>
    intro ontoItself
    rw [ofSource, if_pos (ontoItself_iff.mp ontoItself)]
  case undamaged_iff =>
    rw [ontoItself_iff, was]
    constructor
    · rintro ⟨before, wasBefore, sourceNow, -⟩ ontoItself
      rw [ofSource, if_pos ontoItself] at sourceNow
      rw [was] at wasBefore
      exact wasBefore.trans sourceNow.symm
    · intro emptyThen
      have unchanged : (if target = location then [] else content) = content := by
        split
        next ontoItself => exact (Except.ok.inj (emptyThen ontoItself)).symm
        next => rfl
      rw [unchanged] at ofSource ofDestination
      exact ⟨content, was, ofSource, ofDestination⟩

/-- A source that is no file is reported and nothing is touched. A copy that succeeds does no damage
exactly if it is not onto itself, or there was nothing to lose. -/
theorem perform_effects (machine : Machine) (copy : AssetCopy) (tree : FileTree) :
    Effects machine copy tree := by
  refine ⟨?_, (copy.perform_copiesLast machine).fails tree, copied_of_ok⟩
  intro noFile
  refine perform_missing ?_
  cases found : tree.read machine.working copy.source with
  | ok content => exact absurd found (noFile content)
  | error error => rfl

theorem perform_effects_newDirectory :
    let machine := Markup.bare
    let copy : AssetCopy := ⟨"img/logo.png", "out/diagrams/logo.png"⟩
    let tree := FileTree.place {} (Path.segments "img/logo.png") (.file [80, 78, 71] false)
    copy.outcome machine tree = .ok () ∧ ¬ OntoItself machine copy (copy.files machine tree) ∧
      Undamaged machine copy tree := by
  intro machine copy tree
  have done : copy.outcome machine tree = .ok () := by decide +kernel
  have different : (copy.files machine tree).locate machine.working copy.source ≠
      (copy.files machine tree).locate machine.working copy.destination := by decide +kernel
  have apart : ¬ OntoItself machine copy (copy.files machine tree) := by
    rintro ⟨location, source, destination⟩
    exact different (source.trans destination.symm)
  have copied := (perform_effects machine copy tree).copied done
  exact ⟨done, apart, copied.undamaged_iff.mpr fun ontoItself => absurd ontoItself apart⟩

end AssetCopy

namespace Markup

def logoInAssets : Setting where
  output := "/work"
  source := "/work"
  style := { header := some { left := some "{logo:diagrams/logo.png}" } }

def logoInAssetsFiles : FileTree :=
  FileTree.place {} (Path.segments "work/diagrams/logo.png") (.file [80, 78, 71] false)

/-- The logo is copied onto itself. That succeeds, and the logo is lost. -/
theorem convert_logoLost :
    let copy : AssetCopy := ⟨"/work/diagrams/logo.png", "/work/diagrams/logo.png"⟩
    let later := copy.files bare logoInAssetsFiles
    (convert logoInAssets []).assets = [copy] ∧ copy.outcome bare logoInAssetsFiles = .ok () ∧
      logoInAssetsFiles.read bare.working copy.source = .ok [80, 78, 71] ∧
      later.read bare.working copy.source = .ok [] ∧
      later.read bare.working copy.destination = .ok [] := by
  decide +kernel

end Markup
end Compositor

import Compositor.Host.Machine
import Compositor.Proofs.Files.Keeping
import Compositor.Proofs.Host.Relates

/-! Performing a queue of copies on the files of a machine. One copy makes directories at most, and
then writes its destination. Copies that go by one name apiece leave each other alone. -/

namespace Compositor

open FileTree

variable {α β : Type}

/-- Whatever the program does, the files that are there stay as they are. -/
def keeping : Relates (StateM FileTree) (StateM FileTree) where
  holds program _ := ∀ tree, Keeps (fun _ => False) tree (program.run tree).2
  pure _ tree := Keeps.refl tree
  bind {_ _ program _ _ _} first rest tree :=
    (first tree).trans (rest (program.run tree).1 (program.run tree).2)

namespace Machine

variable (machine : Machine)

theorem kind?_keeping (path : Path) :
    keeping.holds (machine.system.kind? path) (machine.system.kind? path) := by
  intro tree
  have same : ((machine.system.kind? path).run tree).2 = tree := by
    simp only [system, StateT.run_bind, StateT.run_get]
    dsimp only [Bind.bind]
    split <;> rfl
  rw [same]
  exact Keeps.refl tree

theorem createDirectory_keeping (path : Path) :
    keeping.holds (machine.system.createDirectory path) (machine.system.createDirectory path) := by
  intro tree
  change Keeps _ tree (update (·.createDirectory machine.working path) tree).2
  unfold update
  split
  next later made => exact createDirectory_keeps made
  next => exact Keeps.refl tree

theorem copy_run (source destination : Path) (tree : FileTree) :
    (∃ error, (machine.system.copy source destination).run tree = (.error error, tree)) ∨
    ∃ later, (machine.system.copy source destination).run tree = (.ok (), later) ∧
      tree.copy machine.working source destination = .ok later := by
  change (∃ error, update (·.copy machine.working source destination) tree = _) ∨
    ∃ later, update (·.copy machine.working source destination) tree = _ ∧ _
  unfold update
  split
  next later copied => exact .inr ⟨later, rfl, copied⟩
  next error _ => exact .inl ⟨error, rfl⟩

end Machine

variable {machine : Machine}

/-- An attempt to copy a file fails with all files as they were, or its last step is the copy. -/
structure CopiesLast (machine : Machine) (copy : AssetCopy)
    (program : Attempt (StateM FileTree) Unit) : Prop where
  fails (tree : FileTree) (failure : Failure)
    (outcome : (program.run.run tree).1 = .error failure) :
    Keeps (fun _ => False) tree (program.run.run tree).2
  copies (tree : FileTree) (outcome : (program.run.run tree).1 = .ok ()) :
    ∃ middle, Keeps (fun _ => False) tree middle ∧
      middle.copy machine.working copy.source copy.destination = .ok (program.run.run tree).2

theorem onPath_copy_copiesLast (machine : Machine) (copy : AssetCopy) :
    CopiesLast machine copy
      (onPath copy.destination (machine.system.copy copy.source copy.destination)) := by
  constructor
  · intro tree failure outcome
    unfold onPath at outcome ⊢
    rw [ExceptT.run_mk, StateT.run_bind] at outcome ⊢
    obtain ⟨error, failed⟩ | ⟨later, done, _⟩ :=
      machine.copy_run copy.source copy.destination tree
    · rw [failed]
      exact Keeps.refl tree
    · rw [done] at outcome
      cases outcome
  · intro tree outcome
    unfold onPath at outcome ⊢
    rw [ExceptT.run_mk, StateT.run_bind] at outcome ⊢
    obtain ⟨error, failed⟩ | ⟨later, done, copied⟩ :=
      machine.copy_run copy.source copy.destination tree
    · rw [failed] at outcome
      cases outcome
    · rw [done]
      exact ⟨tree, Keeps.refl tree, copied⟩

theorem CopiesLast.bind {copy : AssetCopy} {program : Attempt (StateM FileTree) α}
    {next : α → Attempt (StateM FileTree) Unit} (first : keeping.attempts program program)
    (rest : ∀ value, CopiesLast machine copy (next value)) :
    CopiesLast machine copy (program >>= next) := by
  constructor
  · intro tree failure outcome
    have kept := first tree
    rw [ExceptT.run_bind, StateT.run_bind] at outcome ⊢
    generalize program.run.run tree = answer at outcome kept ⊢
    obtain ⟨error | value, middle⟩ := answer
    · exact kept
    · exact kept.trans ((rest value).fails middle failure outcome)
  · intro tree outcome
    have kept := first tree
    rw [ExceptT.run_bind, StateT.run_bind] at outcome ⊢
    generalize program.run.run tree = answer at outcome kept ⊢
    obtain ⟨error | value, middle⟩ := answer
    · cases outcome
    · obtain ⟨before, keptThere, copied⟩ := (rest value).copies middle outcome
      exact ⟨before, kept.trans keptThere, copied⟩

theorem AssetCopy.perform_copiesLast (machine : Machine) (copy : AssetCopy) :
    CopiesLast machine copy (copy.perform machine.system) := by
  have isFile := keeping.isFile machine.kind?_keeping copy.source
  refine CopiesLast.bind (keeping.attempt_liftM isFile) ?_
  intro isFile
  cases isFile with
  | false =>
      exact ⟨fun tree _ _ => Keeps.refl tree, fun _ outcome => by cases outcome⟩
  | true =>
      rw [if_pos rfl]
      cases Path.parent? copy.destination with
      | none => exact onPath_copy_copiesLast machine copy
      | some directory =>
          have made := keeping.createDirectories machine.kind?_keeping
            machine.createDirectory_keeping directory
          exact CopiesLast.bind (keeping.onPath directory made) fun _ =>
            onPath_copy_copiesLast machine copy

/-! One copy after the other. -/

namespace AssetCopy

def outcome (machine : Machine) (copy : AssetCopy) (tree : FileTree) : Except Failure Unit :=
  ((copy.perform machine.system).run.run tree).1

def files (machine : Machine) (copy : AssetCopy) (tree : FileTree) : FileTree :=
  ((copy.perform machine.system).run.run tree).2

def filesAfter (machine : Machine) (copies : List AssetCopy) (tree : FileTree) : FileTree :=
  ((performAll machine.system copies).run tree).2

theorem filesAfter_cons (machine : Machine) (copy : AssetCopy) (copies : List AssetCopy)
    (tree : FileTree) :
    filesAfter machine (copy :: copies) tree =
      filesAfter machine copies (copy.files machine tree) := rfl

theorem filesAfter_append (machine : Machine) (first second : List AssetCopy) (tree : FileTree) :
    filesAfter machine (first ++ second) tree =
      filesAfter machine second (filesAfter machine first tree) := by
  induction first generalizing tree with
  | nil => rfl
  | cons copy first ih => exact ih (copy.files machine tree)

structure GoesBy (copy : AssetCopy) (name : Text) : Prop where
  isName : Path.IsName name
  source : Path.fileName? copy.source = some name
  destination : ∃ directory, copy.destination = Path.join directory name

def Agree (machine : Machine) (copy : AssetCopy) (tree : FileTree) : Prop :=
  ∃ content, tree.read machine.working copy.source = .ok content ∧
    tree.read machine.working copy.destination = .ok content

namespace GoesBy

variable {copy : AssetCopy} {name : Text} {tree : FileTree}

theorem fileName? (goesBy : copy.GoesBy name) : Path.fileName? copy.destination = some name := by
  obtain ⟨directory, destination⟩ := goesBy.destination
  rw [destination]
  exact Path.fileName?_join goesBy.isName.fileName? directory

theorem trimSlashes (goesBy : copy.GoesBy name) :
    Path.trimSlashes copy.destination = copy.destination := by
  obtain ⟨directory, destination⟩ := goesBy.destination
  rw [destination]
  exact goesBy.isName.trimSlashes_join directory

theorem keeps (goesBy : copy.GoesBy name) (machine : Machine) (tree : FileTree) :
    Keeps (fun location => (copy.files machine tree).locate machine.working copy.destination =
      .ok location) tree (copy.files machine tree) := by
  have copiesLast := copy.perform_copiesLast machine
  cases done : copy.outcome machine tree with
  | error failure =>
      have kept := copiesLast.fails tree failure done
      exact kept.mono fun _ => False.elim
  | ok _ =>
      obtain ⟨middle, made, copied⟩ := copiesLast.copies tree done
      obtain ⟨_, target, _, _, _, _, located, written, _, _⟩ := copy_eq_ok copied
      rw [goesBy.trimSlashes] at located
      have nothing : Keeps (fun location => (copy.files machine tree).locate machine.working
          copy.destination = .ok location) tree middle := made.mono fun _ => False.elim
      refine nothing.trans (written.mono ?_)
      rintro location rfl
      exact written.locate located

theorem agree (goesBy : copy.GoesBy name) {machine : Machine}
    (done : copy.outcome machine tree = .ok ()) : Agree machine copy (copy.files machine tree) := by
  obtain ⟨middle, _, copied⟩ := (copy.perform_copiesLast machine).copies tree done
  obtain ⟨location, target, content, sourceExecutable, executable, sourceLocated, located, written,
    source, destination⟩ := copy_eq_ok copied
  rw [goesBy.trimSlashes] at located
  exact ⟨content,
    read_eq_ok_iff.mpr ⟨location, sourceExecutable, written.locate sourceLocated, source⟩,
    read_eq_ok_iff.mpr ⟨target, executable, written.locate located, destination⟩⟩

theorem agree_files (goesBy : copy.GoesBy name) {machine : Machine} {next : AssetCopy}
    {nextName : Text} (nextGoesBy : next.GoesBy nextName) (apart : nextName = name → next = copy)
    (agree : Agree machine copy tree) : Agree machine copy (next.files machine tree) := by
  obtain ⟨content, source, destination⟩ := agree
  by_cases same : nextName = name
  · obtain rfl := apart same
    cases done : next.outcome machine tree with
    | ok _ => exact goesBy.agree done
    | error failure =>
        -- A copy that fails leaves what the earlier one has written.
        have kept := (next.perform_copiesLast machine).fails tree failure done
        exact ⟨content, kept.read (fun _ _ => id) source, kept.read (fun _ _ => id) destination⟩
  · have kept := nextGoesBy.keeps machine tree
    -- A place ends in the base name of every path that leads to it.
    have elsewhere (path : Path) (named : Path.fileName? path = some name) (location : Location)
        (located : tree.locate machine.working path = .ok location) :
        ¬(next.files machine tree).locate machine.working next.destination = .ok location := by
      intro written
      have ending := locate_name named located
      rw [locate_name nextGoesBy.fileName? written] at ending
      exact same (Option.some.inj ending)
    exact ⟨content, kept.read (elsewhere _ goesBy.source) source,
      kept.read (elsewhere _ goesBy.fileName?) destination⟩

end GoesBy

/-! A queue. -/

structure Apart (copies : List AssetCopy) : Prop where
  named : ∀ copy ∈ copies, ∃ name, copy.GoesBy name
  alike : ∀ first ∈ copies, ∀ second ∈ copies,
    Path.fileName? first.source = Path.fileName? second.source → first = second

variable {machine : Machine}

theorem filesAfter_keeps {copies : List AssetCopy}
    (named : ∀ copy ∈ copies, ∃ name, copy.GoesBy name) (tree : FileTree) :
    Keeps (fun location => ∃ copy ∈ copies,
      (filesAfter machine copies tree).locate machine.working copy.destination = .ok location)
      tree (filesAfter machine copies tree) := by
  induction copies generalizing tree with
  | nil => exact Keeps.refl tree
  | cons copy copies ih =>
      obtain ⟨name, goesBy⟩ := named copy (.head _)
      have first := goesBy.keeps machine tree
      have rest := ih (fun other member => named other (.tail _ member)) (copy.files machine tree)
      rw [filesAfter_cons]
      refine (first.mono ?_).trans (rest.mono ?_)
      · intro location located
        exact ⟨copy, .head _, rest.locate located⟩
      · rintro location ⟨other, member, located⟩
        exact ⟨other, .tail _ member, located⟩

theorem filesAfter_agree {copy : AssetCopy} {name : Text} (goesBy : copy.GoesBy name)
    {copies : List AssetCopy}
    (apart : ∀ next ∈ copies, ∃ nextName, next.GoesBy nextName ∧ (nextName = name → next = copy))
    {tree : FileTree} (agree : Agree machine copy tree) :
    Agree machine copy (filesAfter machine copies tree) := by
  induction copies generalizing tree with
  | nil => exact agree
  | cons next copies ih =>
      obtain ⟨nextName, nextGoesBy, same⟩ := apart next (.head _)
      exact ih (fun later member => apart later (.tail _ member))
        (goesBy.agree_files nextGoesBy same agree)

theorem Apart.agree {copies before after : List AssetCopy} {copy : AssetCopy} {tree : FileTree}
    (apart : Apart copies) (turn : copies = before ++ copy :: after)
    (done : copy.outcome machine (filesAfter machine before tree) = .ok ()) :
    Agree machine copy (filesAfter machine copies tree) := by
  have isCopy : copy ∈ copies := by simp [turn]
  obtain ⟨name, goesBy⟩ := apart.named copy isCopy
  rw [turn, filesAfter_append, filesAfter_cons]
  refine filesAfter_agree goesBy ?_ (goesBy.agree done)
  intro next member
  have isNext : next ∈ copies := by simp [turn, member]
  obtain ⟨nextName, nextGoesBy⟩ := apart.named next isNext
  refine ⟨nextName, nextGoesBy, ?_⟩
  rintro rfl
  exact apart.alike next isNext copy isCopy (nextGoesBy.source.trans goesBy.source.symm)

end AssetCopy
end Compositor

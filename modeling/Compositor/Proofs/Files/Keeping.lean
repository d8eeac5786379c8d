import Compositor.Files.Tree
import Compositor.Proofs.Path.BaseName

/-! What an operation on files leaves as it was. Directories stay, and so do the files that are not
written, so a path leads where it led before. -/

namespace Compositor

theorem bind_eq_ok_iff {ε α β : Type} {first : Except ε α} {next : α → Except ε β} {result : β} :
    (first >>= next) = .ok result ↔ ∃ value, first = .ok value ∧ next value = .ok result := by
  cases first with
  | error error => exact iff_of_false nofun (by simp)
  | ok value => simp [Bind.bind, Except.bind]

namespace FileTree

/-- In a later tree the directories are still there, and the files outside the changed locations
are as they were. -/
structure Keeps (changed : Location → Prop) (tree later : FileTree) : Prop where
  directory {location : Location} (was : tree.find? location = some .directory) :
    later.find? location = some .directory
  file {location : Location} {content : Bytes} {executable : Bool} (same : ¬changed location)
    (was : tree.find? location = some (.file content executable)) :
    later.find? location = some (.file content executable)

namespace Keeps

variable {changed other : Location → Prop} {tree later last : FileTree} {working : Location}
  {path : Path} {location : Location}

theorem refl (tree : FileTree) : Keeps changed tree tree := ⟨id, fun _ => id⟩

theorem trans (first : Keeps changed tree later) (second : Keeps changed later last) :
    Keeps changed tree last :=
  ⟨second.directory ∘ first.directory, fun same => second.file same ∘ first.file same⟩

theorem mono (keeps : Keeps changed tree later)
    (within : ∀ location, changed location → other location) : Keeps other tree later :=
  ⟨keeps.directory, fun same => keeps.file (mt (within _) same)⟩

theorem step (keeps : Keeps changed tree later) {segment : Text} {next : Location}
    (taken : tree.step location segment = .ok next) : later.step location segment = .ok next := by
  unfold FileTree.step at taken ⊢
  split at taken
  next => cases taken
  next => cases taken
  next directory =>
    rw [keeps.directory directory]
    exact taken

theorem steps (keeps : Keeps changed tree later) {segments : List Text} {next : Location}
    (taken : segments.foldlM tree.step location = .ok next) :
    segments.foldlM later.step location = .ok next := by
  induction segments generalizing location with
  | nil => exact taken
  | cons segment segments ih =>
      rw [List.foldlM_cons, bind_eq_ok_iff] at taken ⊢
      obtain ⟨middle, first, rest⟩ := taken
      exact ⟨middle, keeps.step first, ih rest⟩

theorem locate (keeps : Keeps changed tree later)
    (found : tree.locate working path = .ok location) :
    later.locate working path = .ok location := by
  unfold FileTree.locate at found ⊢
  split at found
  next => cases found
  next notEmpty =>
    rw [if_neg notEmpty]
    split at found
    next => cases found
    next plain =>
      rw [if_neg plain]
      exact keeps.steps found

end Keeps

theorem read_eq_ok_iff {tree : FileTree} {working : Location} {path : Path} {content : Bytes} :
    tree.read working path = .ok content ↔ ∃ location executable,
      tree.locate working path = .ok location ∧
        tree.find? location = some (.file content executable) := by
  constructor
  · intro was
    unfold read at was
    split at was
    next => cases was
    next location found =>
      split at was
      next => cases was
      next => cases was
      next other executable file =>
        cases was
        exact ⟨location, executable, found, file⟩
  · rintro ⟨location, executable, found, file⟩
    simp only [read, found, file]

theorem Keeps.read {changed : Location → Prop} {tree later : FileTree} {working : Location}
    {path : Path} {content : Bytes} (keeps : Keeps changed tree later)
    (same : ∀ location, tree.locate working path = .ok location → ¬changed location)
    (was : tree.read working path = .ok content) : later.read working path = .ok content := by
  obtain ⟨location, executable, found, file⟩ := read_eq_ok_iff.mp was
  exact read_eq_ok_iff.mpr
    ⟨location, executable, keeps.locate found, keeps.file (same location found) file⟩

theorem step_idle {tree : FileTree} {location next : Location} {segment : Text}
    (idle : Path.isIdle segment = true) (taken : tree.step location segment = .ok next) :
    next = location := by
  unfold step at taken
  split at taken
  · cases taken
  · cases taken
  · rw [if_pos idle] at taken
    cases taken
    rfl

theorem step_name {tree : FileTree} {location next : Location} {name : Text}
    (isName : Path.IsName name) (taken : tree.step location name = .ok next) :
    next = location ++ [name] := by
  unfold step at taken
  split at taken
  · cases taken
  · cases taken
  · rw [if_neg (by simp [isName.busy]), if_neg isName.notParent] at taken
    cases taken
    rfl

theorem steps_idle {tree : FileTree} {location next : Location} {segments : List Text}
    (areIdle : ∀ segment ∈ segments, Path.isIdle segment = true)
    (taken : segments.foldlM tree.step location = .ok next) : next = location := by
  induction segments generalizing location with
  | nil =>
      cases taken
      rfl
  | cons segment segments ih =>
      rw [List.foldlM_cons, bind_eq_ok_iff] at taken
      obtain ⟨middle, first, rest⟩ := taken
      obtain rfl := step_idle (areIdle segment (.head _)) first
      exact ih (fun later member => areIdle later (.tail _ member)) rest

theorem locate_name {tree : FileTree} {working location : Location} {path : Path} {name : Text}
    (named : Path.fileName? path = some name)
    (found : tree.locate working path = .ok location) : location.getLast? = some name := by
  obtain ⟨isName, before, idle, segments, areIdle⟩ := Path.fileName?_segments named
  unfold locate at found
  rw [segments] at found
  split at found
  next => cases found
  next =>
    split at found
    next => cases found
    next =>
      rw [List.foldlM_append, bind_eq_ok_iff] at found
      obtain ⟨directory, _, found⟩ := found
      rw [List.foldlM_cons, bind_eq_ok_iff] at found
      obtain ⟨there, taken, rest⟩ := found
      rw [steps_idle areIdle rest, step_name isName taken, List.getLast?_concat]

/-! Operations. -/

variable {tree later : FileTree} {working location : Location} {path : Path}

theorem set_file_keeps (tree : FileTree) (location : Location) (content : Bytes) (executable : Bool)
    (noDirectory : tree.find? location ≠ some .directory) :
    Keeps (· = location) tree (tree.set location (.file content executable)) := by
  constructor
  · intro other was
    rw [find?_set_other tree _, was]
    rintro rfl
    exact noDirectory was
  · intro other _ _ different was
    rw [find?_set_other tree different, was]

theorem set_directory_keeps (free : tree.find? location = none) :
    Keeps (fun _ => False) tree (tree.set location .directory) := by
  have different {other : Location} {entry : Entry} (was : tree.find? other = some entry) :
      other ≠ location := by
    rintro rfl
    rw [free] at was
    cases was
  constructor
  · intro other was
    rw [find?_set_other tree (different was), was]
  · intro other _ _ _ was
    rw [find?_set_other tree (different was), was]

theorem createDirectory_keeps (made : tree.createDirectory working path = .ok later) :
    Keeps (fun _ => False) tree later := by
  unfold createDirectory at made
  obtain ⟨location, _, made⟩ := bind_eq_ok_iff.mp made
  split at made
  next => cases made
  next free =>
    cases made
    exact set_directory_keeps (by simpa using free)

theorem locateFile_eq_ok (found : tree.locateFile working path = .ok location) :
    tree.locate working (Path.trimSlashes path) = .ok location ∧
      tree.find? location ≠ some .directory := by
  unfold locateFile at found
  obtain ⟨there, located, found⟩ := bind_eq_ok_iff.mp found
  split at found
  next => cases found
  next free =>
    cases found
    exact ⟨located, fun directory => free (.inr directory)⟩

theorem locate_of_locateFile (found : tree.locateFile working path = .ok location) :
    tree.locate working path = .ok location := by
  have located := (locateFile_eq_ok found).1
  unfold locateFile at found
  obtain ⟨there, _, found⟩ := bind_eq_ok_iff.mp found
  split at found
  next => cases found
  next free => rwa [Path.trimSlashes_eq_self fun slash => free (.inl slash)] at located

theorem find?_root (tree : FileTree) : tree.find? [] = some .directory := rfl

/-- A copy only writes its destination. What it writes is the content of the source, unless both are
the same file: that one has been emptied before it is read. -/
theorem copy_writes {source destination : Path}
    (copied : tree.copy working source destination = .ok later) :
    ∃ location target content sourceExecutable executable,
      tree.locate working source = .ok location ∧
      tree.find? location = some (.file content sourceExecutable) ∧
      tree.locateFile working destination = .ok target ∧
      Keeps (· = target) tree later ∧
      later.find? target = some (.file (if target = location then [] else content) executable) := by
  unfold copy at copied
  obtain ⟨content, wasRead, copied⟩ := bind_eq_ok_iff.mp copied
  obtain ⟨location, located, copied⟩ := bind_eq_ok_iff.mp copied
  obtain ⟨target, targeted, copied⟩ := bind_eq_ok_iff.mp copied
  obtain ⟨written, reread, copied⟩ := bind_eq_ok_iff.mp copied
  have noDirectory := (locateFile_eq_ok targeted).2
  have notRoot : target ≠ [] := by
    rintro rfl
    exact noDirectory tree.find?_root
  cases copied
  let executable := tree.isExecutable location
  let emptied := tree.set target (.file [] executable)
  let later := emptied.set target (.file written executable)
  change emptied.read working source = .ok written at reread
  have isEmptied : emptied.find? target = some (.file [] executable) :=
    find?_set_self tree notRoot _
  have emptying : Keeps (· = target) tree emptied := set_file_keeps tree target _ _ noDirectory
  have filling : Keeps (· = target) emptied later :=
    set_file_keeps emptied target _ _ (by rw [isEmptied]; nofun)
  have filled : later.find? target = some (.file written executable) :=
    find?_set_self emptied notRoot _
  obtain ⟨there, sourceExecutable, thereLocated, file⟩ := read_eq_ok_iff.mp wasRead
  rw [located] at thereLocated
  cases thereLocated
  obtain ⟨there, _, thereLocated, rereadFile⟩ := read_eq_ok_iff.mp reread
  rw [emptying.locate located] at thereLocated
  cases thereLocated
  have writtenIs : written = if target = location then [] else content := by
    by_cases ontoItself : target = location
    · rw [← ontoItself, isEmptied] at rereadFile
      cases rereadFile
      rw [if_pos ontoItself]
    · rw [emptying.file (Ne.symm ontoItself) file] at rereadFile
      cases rereadFile
      rw [if_neg ontoItself]
  exact ⟨location, target, content, sourceExecutable, executable, located, file, targeted,
    emptying.trans filling, writtenIs ▸ filled⟩

theorem copy_eq_ok {source destination : Path}
    (copied : tree.copy working source destination = .ok later) :
    ∃ location target content sourceExecutable executable,
      tree.locate working source = .ok location ∧
      tree.locate working (Path.trimSlashes destination) = .ok target ∧
      Keeps (· = target) tree later ∧
      later.find? location = some (.file content sourceExecutable) ∧
      later.find? target = some (.file content executable) := by
  obtain ⟨location, target, content, sourceExecutable, executable, located, was, targeted, kept,
    filled⟩ := copy_writes copied
  have targetLocated := (locateFile_eq_ok targeted).1
  by_cases ontoItself : target = location
  · subst ontoItself
    rw [if_pos rfl] at filled
    exact ⟨target, target, [], executable, executable, located, targetLocated, kept, filled, filled⟩
  · rw [if_neg ontoItself] at filled
    exact ⟨location, target, content, sourceExecutable, executable, located, targetLocated, kept,
      kept.file (Ne.symm ontoItself) was, filled⟩

end FileTree
end Compositor

import Compositor.Host.Machine
import Compositor.Proofs.Settings.Reading

/-! Files of settings: what is read from the files of a machine, and what it does when it is laid
over other values. A file in order lays its own value over each setting and changes nothing else. -/

namespace Compositor.Settings

open Toml (keys)
open Value (lowerCase leadsBelow below? laid)

/-! Reading files. -/

section
variable (machine : Machine) (tree : FileTree)

def isFileAt (path : Path) : Bool :=
  match tree.entryAt? machine.working path with
  | some (.file _ _) => true
  | _ => false

def locatedAt? (path : Path) : Option Path :=
  if isFileAt machine tree path then some path
  else if isFileAt machine tree (withTomlExtension path) then some (withTomlExtension path)
  else none

def textAt? (path : Path) : Option (Path × Text) :=
  (locatedAt? machine tree path).bind fun found =>
    (tree.read machine.working found).toOption.map fun bytes =>
      (found, dropByteOrderMark (Text.ofBytesLossy bytes))

def fileAt (path : Path) (required : Bool) : Except Failure Value :=
  match textAt? machine tree path with
  | none => if required then .error (.missingFile path) else .ok (.table [])
  | some (found, text) =>
      match Toml.read? text with
      | some value => .ok (.ofToml (some (originOf found)) value)
      | none => .error .syntaxError

theorem isFile_run (path : Path) :
    (machine.system.isFile path).run tree = (isFileAt machine tree path, tree) := by
  simp only [System.isFile, isFileAt, Machine.system, StateT.run_bind, StateT.run_get]
  dsimp only [Bind.bind]
  cases tree.entryAt? machine.working path with
  | none => rfl
  | some entry => cases entry <;> rfl

theorem locate?_run (path : Path) :
    (locate? machine.system path).run tree = (locatedAt? machine tree path, tree) := by
  rw [locate?, StateT.run_bind, isFile_run, locatedAt?]
  cases isFileAt machine tree path with
  | true => rfl
  | false =>
      change StateT.run (machine.system.isFile (withTomlExtension path) >>= _) tree = _
      rw [StateT.run_bind, isFile_run]
      cases isFileAt machine tree (withTomlExtension path) <;> rfl

theorem asked_run {α β : Type} (action : StateM FileTree α)
    (next : α → ExceptT Failure (StateM FileTree) β) :
    ((liftM action : ExceptT Failure (StateM FileTree) α) >>= next).run.run tree =
      (next (action.run tree).1).run.run (action.run tree).2 := rfl

theorem readFile_run (path : Path) (required : Bool) :
    (readFile machine.system path required).run.run tree =
      (fileAt machine tree path required, tree) := by
  unfold readFile
  extract_lets absent
  have absentRun : absent.run.run tree =
      (if required then .error (.missingFile path) else .ok (.table []), tree) := by
    simp only [absent]
    cases required <;> rfl
  rw [asked_run, locate?_run, fileAt, textAt?]
  cases locatedAt? machine tree path with
  | none => exact absentRun
  | some found =>
      have read : (machine.system.read found).run tree =
          (tree.read machine.working found, tree) := rfl
      rw [asked_run, read, Option.bind_some]
      cases tree.read machine.working found with
      | error error => exact absentRun
      | ok bytes =>
          dsimp only [Except.toOption, Option.map]
          cases Toml.read? (dropByteOrderMark (Text.ofBytesLossy bytes)) <;> rfl

theorem attempt_run {α β : Type} {program : ExceptT Failure (StateM FileTree) α} {value : α}
    {after : FileTree} (ran : program.run.run tree = (.ok value, after))
    (next : α → ExceptT Failure (StateM FileTree) β) :
    (program >>= next).run.run tree = (next value).run.run after := by
  change StateT.run (program.run >>= ExceptT.bindCont next) tree = _
  rw [StateT.run_bind, ran]
  rfl

end

/-! Files whose values are in order. -/

/-- No name stands twice, also within a section. -/
structure DistinctKeys (file : Value) : Prop where
  names : (keys file.entries).Nodup
  below {name : Text} {entries : List (Text × Value)}
    (found : file.lookUp? name = some (.table entries)) : (keys entries).Nodup

/-- Names are in lower case, and the sections of settings are tables. -/
structure Orderly (file : Value) : Prop where
  lower : ∀ entry ∈ file.entries, lowerCase entry.1 = entry.1
  tables (setting : Setting) {found : Value} (is : file.lookUp? setting.part = some found) :
    ∃ entries, found = .table entries ∧ ∀ entry ∈ entries, lowerCase entry.1 = entry.1

/-- No name is read as a key that leads into a section. -/
def PlainNames (file : Value) : Prop :=
  ∀ setting : Setting, ∀ entry ∈ file.entries, leadsBelow setting.part entry.1 = false

theorem empty_distinctKeys : DistinctKeys (.table []) := by
  refine ⟨List.nodup_nil, ?_⟩
  intro name entries found
  cases found

theorem empty_orderly : Orderly (.table []) := by
  refine ⟨List.forall_mem_nil _, ?_⟩
  intro setting value found
  cases found

theorem empty_plainNames : PlainNames (.table []) := fun _ => List.forall_mem_nil _

theorem keys_ofTomlEntries (origin : Option Text) (entries : List (Text × Toml.Value)) :
    keys (Value.ofTomlEntries origin entries) = keys entries := by
  induction entries with
  | nil => rfl
  | cons entry entries ih => exact congrArg (entry.1 :: ·) ih

theorem mem_ofTomlEntries {origin : Option Text} {entries : List (Text × Toml.Value)}
    {entry : Text × Value} (member : entry ∈ Value.ofTomlEntries origin entries) :
    ∃ value, (entry.1, value) ∈ entries ∧ entry.2 = .ofToml origin value := by
  induction entries with
  | nil => cases member
  | cons first entries ih =>
      rcases List.mem_cons.mp member with rfl | rest
      · exact ⟨first.2, .head _, rfl⟩
      · obtain ⟨value, inside, same⟩ := ih rest
        exact ⟨value, .tail _ inside, same⟩

theorem distinctKeys_ofToml (origin : Option Text) {value : Toml.Value}
    (distinct : value.Distinct) :
    DistinctKeys (.ofToml origin value) := by
  cases value with
  | table entries =>
      obtain ⟨nodup, all⟩ := distinct.entries
      refine ⟨?_, ?_⟩
      · change (keys (Value.ofTomlEntries origin entries)).Nodup
        rwa [keys_ofTomlEntries]
      · intro name inner found
        change (Value.ofTomlEntries origin entries).lookup name = _ at found
        obtain ⟨before, after, shape, -⟩ := List.lookup_eq_some_iff.mp found
        have member : (name, Value.table inner) ∈ Value.ofTomlEntries origin entries := by
          rw [shape]
          simp
        obtain ⟨value, inside, same⟩ := mem_ofTomlEntries member
        cases value with
        | table innerEntries =>
            cases same
            rw [keys_ofTomlEntries]
            exact (all _ inside).entries.1
        | _ => cases same
  | _ =>
      refine ⟨List.nodup_nil, ?_⟩
      intro name entries found
      cases found

section
variable {file base : Value}

theorem valueIn?_layOver (distinct : DistinctKeys file) (orderly : Orderly file)
    (plain : PlainNames file) (base : Value) (setting : Setting) :
    setting.valueIn? (file.layOver base) =
      laid (setting.valueIn? file) (setting.valueIn? base) := by
  have whole := Value.lookUp?_layOver setting.part_plain distinct.names orderly.lower
    (plain setting) base
  rw [Setting.valueIn?, below?, whole, Setting.valueIn?, below?]
  cases found : file.lookUp? setting.part with
  | none => rfl
  | some part =>
      obtain ⟨entries, rfl, lower⟩ := orderly.tables setting found
      exact Value.lookUp?_overlay (distinct.below found) lower _

theorem sectioned_layOver (distinct : DistinctKeys file) (orderly : Orderly file)
    (plain : PlainNames file) (sectioned : Sectioned base) : Sectioned (file.layOver base) := by
  intro setting
  obtain ⟨below, foundBelow⟩ := sectioned setting
  rw [Value.lookUp?_layOver setting.part_plain distinct.names orderly.lower (plain setting),
    foundBelow]
  cases found : file.lookUp? setting.part with
  | none => exact ⟨below, rfl⟩
  | some part =>
      obtain ⟨entries, rfl, -⟩ := orderly.tables setting found
      obtain ⟨after, shape⟩ := Value.setAll_table entries below
      exact ⟨after, congrArg some shape⟩

end

section
variable (machine : Machine) (tree : FileTree)

theorem fileAt_distinct {path : Path} {required : Bool} {file : Value}
    (found : fileAt machine tree path required = .ok file) : DistinctKeys file := by
  rw [fileAt] at found
  split at found
  next =>
    split at found
    next => cases found
    next =>
      cases found
      exact empty_distinctKeys
  next located text read =>
    split at found
    next value parsed =>
      cases found
      exact distinctKeys_ofToml _ (Toml.read?_distinct parsed)
    next => cases found

end

end Compositor.Settings

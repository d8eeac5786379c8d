import Compositor.Proofs.Settings.Overlay
import Compositor.Settings.Layers

/-! The settings of the program one by one. Each is read from its own value, which stands under its
name in the section that it belongs to. -/

namespace Compositor.Settings

open Toml (keys)
open Value (lowerCase lookUp? leadsBelow below? laid seen solid?)

inductive Setting where
  | enabled
  | command
  | background
  | scale
  | puppeteerConfig
  | typst
  | assetDirectory
  | progress
  deriving DecidableEq

namespace Setting

def part : Setting → Text
  | .typst => "compile"
  | .assetDirectory => "output"
  | .progress => "output"
  | _ => "diagrams"

def name : Setting → Text
  | .enabled => "enabled"
  | .command => "command"
  | .background => "background"
  | .scale => "scale"
  | .puppeteerConfig => "puppeteer_config"
  | .typst => "typst"
  | .assetDirectory => "asset_dir"
  | .progress => "progress"

def key (setting : Setting) : Text := setting.part ++ '.' :: setting.name

def valueIn? (setting : Setting) (value : Value) : Option Value :=
  value.below? setting.part setting.name

variable (setting other : Setting)

theorem part_plain : Key.ofText setting.part = .ok ⟨setting.part, []⟩ := by
  cases setting <;> decide

theorem key_ofText : Key.ofText setting.key = .ok ⟨setting.part, [.child setting.name]⟩ := by
  cases setting <;> decide

theorem name_lowerCase : lowerCase setting.name = setting.name := by
  cases setting <;> decide

theorem key_eq_iff :
    setting.key = other.key ↔ setting.part = other.part ∧ setting.name = other.name := by
  cases setting <;> cases other <;> decide

end Setting

/-! Reading settings from a value for each of them. -/

def required {α : Type} (setting : Setting) (read : Value → Reading α) (found : Option Value) :
    Except Failure α :=
  match found with
  | some value => Section.convert read (setting.key, value)
  | none => .error (.section ("missing field `" ++ setting.name ++ "`"))

def optional (setting : Setting) (found : Option Value) : Except Failure (Option Text) :=
  match found with
  | some value => Section.convert readOptional (setting.key, value)
  | none => .ok none

def ofFound (found : Setting → Option Value) : Except Failure Settings := do
  let enabled ← required .enabled readFlag (found .enabled)
  let command ← optional .command (found .command)
  let background ← required .background readText (found .background)
  let scale ← required .scale readScale (found .scale)
  let puppeteerConfig ← optional .puppeteerConfig (found .puppeteerConfig)
  let typst ← optional .typst (found .typst)
  let assetDirectory ← required .assetDirectory readText (found .assetDirectory)
  let progress ← required .progress readFlag (found .progress)
  .ok ⟨⟨enabled, command, background, scale, puppeteerConfig⟩, typst, assetDirectory, progress⟩

theorem convert_seen {α : Type} {read : Value → Reading α}
    (blind : ∀ value, read value.seen = read value) (place : Text) (value : Value) :
    Section.convert read (place, value.seen) = Section.convert read (place, value) := by
  rw [Section.convert, Section.convert, blind]

theorem required_seen {α : Type} (setting : Setting) {read : Value → Reading α}
    (blind : ∀ value, read value.seen = read value) (found : Option Value) :
    required setting read (found.map seen) = required setting read found := by
  cases found with
  | none => rfl
  | some value => exact convert_seen blind setting.key value

theorem readFlag_seen (value : Value) : readFlag value.seen = readFlag value := by
  cases value <;> rfl

theorem readText_seen (value : Value) : readText value.seen = readText value := by
  cases value <;> rfl

theorem readScale_seen (value : Value) : readScale value.seen = readScale value := by
  cases value <;> rfl

theorem readOptional_seen (value : Value) : readOptional value.seen = readOptional value := by
  cases value <;> rfl

theorem optional_seen (setting : Setting) (found : Option Value) :
    optional setting (found.map seen) = optional setting found := by
  cases found with
  | none => rfl
  | some value => exact convert_seen readOptional_seen setting.key value

theorem ofFound_seen (found : Setting → Option Value) :
    ofFound (fun setting => (found setting).map seen) = ofFound found := by
  unfold ofFound
  simp only [required_seen _ readFlag_seen, required_seen _ readText_seen,
    required_seen _ readScale_seen, optional_seen]

def Sectioned (value : Value) : Prop :=
  ∀ setting : Setting, ∃ entries, value.lookUp? setting.part = some (.table entries)

section
variable {value : Value} {name : Text} {entries : List (Text × Value)}

theorem ofValue_table (found : value.lookUp? name = some (.table entries)) (title : Text)
    (fields : List Text) :
    Section.ofValue name title fields value = .ok ⟨name, title, fields, .table entries⟩ := by
  unfold Section.ofValue
  rw [found]

theorem find?_table (part title : Text) (fields : List Text) :
    Section.find? ⟨part, title, fields, .table entries⟩ name =
      (entries.lookup name).map fun value => (part ++ '.' :: name, value) := rfl

theorem require_table (setting : Setting)
    (found : value.lookUp? setting.part = some (.table entries)) {α : Type}
    (read : Value → Reading α) (title : Text) (fields : List Text) :
    Section.require ⟨setting.part, title, fields, .table entries⟩ setting.name read =
      required setting read (setting.valueIn? value) := by
  rw [Setting.valueIn?, below?, found, Option.bind_some, Value.lookUp?_table, Section.require,
    find?_table]
  cases entries.lookup setting.name <;> rfl

theorem optional_table (setting : Setting)
    (found : value.lookUp? setting.part = some (.table entries)) (title : Text)
    (fields : List Text) :
    Section.optional ⟨setting.part, title, fields, .table entries⟩ setting.name =
      optional setting (setting.valueIn? value) := by
  rw [Setting.valueIn?, below?, found, Option.bind_some, Value.lookUp?_table, Section.optional,
    find?_table]
  cases entries.lookup setting.name <;> rfl

end

theorem ofValue_sectioned {value : Value} (sectioned : Sectioned value) :
    ofValue value = ofFound (fun setting => setting.valueIn? value) := by
  obtain ⟨diagrams, foundDiagrams⟩ := sectioned .enabled
  obtain ⟨compile, foundCompile⟩ := sectioned .typst
  obtain ⟨output, foundOutput⟩ := sectioned .progress
  have ok_bind {α β : Type} (value : α) (next : α → Except Failure β) :
      (.ok value >>= next) = next value := rfl
  have diagramsRead := @ofValue_table _ "diagrams".toList _ foundDiagrams
  have compileRead := @ofValue_table _ "compile".toList _ foundCompile
  have outputRead := @ofValue_table _ "output".toList _ foundOutput
  unfold ofValue
  simp only [diagramsRead, compileRead, outputRead, ok_bind]
  rw [ofFound, ← require_table .enabled foundDiagrams, ← optional_table .command foundDiagrams,
    ← require_table .background foundDiagrams, ← require_table .scale foundDiagrams,
    ← optional_table .puppeteerConfig foundDiagrams, ← optional_table .typst foundCompile,
    ← require_table .assetDirectory foundOutput, ← require_table .progress foundOutput]
  rfl

theorem builtIn_sectioned : Sectioned builtIn := by
  intro setting
  cases setting <;> exact ⟨_, rfl⟩

end Compositor.Settings

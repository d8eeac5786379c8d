import Compositor.Publish.Renderer
import Compositor.Settings.Text

/-! The settings of the program, read from values. -/

namespace Compositor

structure DiagramSettings where
  enabled : Bool := true
  command : Option Text := none
  background : Text := "white"
  scale : UInt32 := 2
  puppeteerConfig : Option Path := none
  deriving DecidableEq

structure Settings where
  diagrams : DiagramSettings := {}
  typst : Option Path := none
  assetDirectory : Text := "diagrams"
  progress : Bool := true
  deriving DecidableEq

def DiagramSettings.renderOptions (settings : DiagramSettings) : RenderOptions where
  command := settings.command
  background := settings.background
  scale := settings.scale
  puppeteerConfig := settings.puppeteerConfig

namespace Settings

inductive Failure where
  | key (error : KeyError)
  | type (found expected place : Text) (origin : Option Text)
  | section (message : Text)
  | syntaxError
  | missingFile (name : Path)
  deriving DecidableEq

def Failure.message : Failure → Text
  | .key error => error.message
  | .type found expected place origin =>
      "invalid type: " ++ found ++ ", expected " ++ expected ++ " for key `" ++ place ++ "`" ++
        (match origin with
          | some origin => " in " ++ origin
          | none => [])
  | .section message => message
  | .syntaxError => "TOML parse error"
  | .missingFile name => "configuration file \"" ++ name ++ "\" not found"

structure Mismatch where
  found : Text
  expected : Text
  origin : Option Text

abbrev Reading (α : Type) := Except Mismatch α

def unusable (expected : Text) : Value → Mismatch
  | .list origin _ => ⟨"sequence", expected, origin⟩
  | .table _ => ⟨"map", expected, none⟩
  | .scalar origin _ => ⟨"unit value", expected, origin⟩

def flagWord? (text : Text) : Option Bool :=
  let word := Value.lowerCase text
  if ["true".toList, "on".toList, "yes".toList].contains word then some true
  else if ["false".toList, "off".toList, "no".toList].contains word then some false
  else none

def readFlag : Value → Reading Bool
  | .scalar _ (.flag value) => .ok value
  | .scalar _ (.integer value) => .ok (value != 0)
  | .scalar _ (.float value) => .ok (! Binary64.sameValue value (.finite false 0))
  | .scalar origin (.text text) =>
      let word := Value.lowerCase text
      if word = ['1'] then .ok true
      else if word = ['0'] then .ok false
      else
        match flagWord? text with
        | some value => .ok value
        | none => .error ⟨"string " ++ quoted word, "a boolean", origin⟩
  | value => .error (unusable "a boolean" value)

def largest64 : Nat := UInt64.size - 1

/-- The nearest number without a sign, a half going up; what is out of range goes to its end. -/
def roundToNat : Binary64 → Nat
  | .finite false units => min ((units + Nat.pow 2 1073) / Nat.pow 2 1074) largest64
  | .infinite false => largest64
  | _ => 0

def natText? (text : Text) : Option Nat :=
  let digits := (Text.stripStart? ['+'] text).getD text
  if digits.isEmpty || !digits.all Char.isDigit then none
  else (some (Text.digitsValue 0 digits)).filter (· ≤ largest64)

def readNat : Value → Reading Nat
  | .scalar _ (.flag value) => .ok value.toNat
  | .scalar _ (.integer (.ofNat value)) => .ok value
  | .scalar origin (.integer value) =>
      .error ⟨"64-bit integer `" ++ integerText value ++ "`",
        "an unsigned 64 bit or less integer", origin⟩
  | .scalar _ (.float value) => .ok (roundToNat value)
  | .scalar origin (.text text) =>
      match flagWord? text, natText? text with
      | some value, _ => .ok value.toNat
      | none, some value => .ok value
      | none, none => .error ⟨"string " ++ quoted text, "an integer", origin⟩
  | value => .error (unusable "an integer" value)

def readScale (value : Value) : Reading UInt32 := do
  let number ← readNat value
  if number < UInt32.size then .ok (UInt32.ofNat number)
  else
    .error ⟨"64-bit unsigned integer `" ++ Text.ofNat number ++ "`", "an unsigned 32 bit integer",
      none⟩

def readText : Value → Reading Text
  | .scalar _ (.flag value) => .ok (if value then "true" else "false").toList
  | .scalar _ (.integer value) => .ok (integerText value)
  | .scalar _ (.float value) => .ok (Binary64.positionalText value)
  | .scalar _ (.text value) => .ok value
  | value => .error (unusable "a string" value)

def readOptional : Value → Reading (Option Text)
  | .scalar _ .nothing => .ok none
  | value => (readText value).map some

/-- A section of the settings: a table with named values, or a list of the same values in order. -/
structure Section where
  name : Text
  title : Text
  fields : List Text
  value : Value

namespace Section

def find? (part : Section) (name : Text) : Option (Text × Value) :=
  match part.value with
  | .list _ items =>
      let index := part.fields.idxOf name
      items[index]?.map fun value => (part.name ++ '[' :: Text.ofNat index ++ [']'], value)
  | value => (value.lookUp? name).map fun value => (part.name ++ '.' :: name, value)

def missing (part : Section) (name : Text) : Failure :=
  match part.value with
  | .list _ _ =>
      let count := part.fields.length
      .section ("invalid length " ++ Text.ofNat (part.fields.idxOf name) ++ ", expected " ++
        part.title ++ " with " ++ Text.ofNat count ++
        (if count = 1 then " element" else " elements").toList)
  | _ => .section ("missing field `" ++ name ++ "`")

def convert {α : Type} (read : Value → Reading α) (found : Text × Value) : Except Failure α :=
  match read found.2 with
  | .ok value => .ok value
  | .error mismatch => .error (.type mismatch.found mismatch.expected found.1 mismatch.origin)

def require {α : Type} (part : Section) (name : Text) (read : Value → Reading α) :
    Except Failure α :=
  match part.find? name with
  | some found => convert read found
  | none => .error (part.missing name)

def optional (part : Section) (name : Text) : Except Failure (Option Text) :=
  match part.find? name with
  | some found => convert readOptional found
  | none => .ok none

def ofValue (name title : Text) (fields : List Text) (value : Value) : Except Failure Section :=
  match value.lookUp? name with
  | none => .error (.section ("missing field `" ++ name ++ "`"))
  | some (.scalar origin content) =>
      .error (.section ("invalid type: " ++ (Value.scalar origin content).describe ++
        ", expected " ++ title))
  | some found => .ok ⟨name, title, fields, found⟩

end Section

def ofValue (value : Value) : Except Failure Settings := do
  let diagrams ← Section.ofValue "diagrams" "struct DiagramsConfig"
    ["enabled", "command", "background", "scale", "puppeteer_config"] value
  let enabled ← diagrams.require "enabled" readFlag
  let command ← diagrams.optional "command"
  let background ← diagrams.require "background" readText
  let scale ← diagrams.require "scale" readScale
  let puppeteerConfig ← diagrams.optional "puppeteer_config"
  let compile ← Section.ofValue "compile" "struct CompileConfig" ["typst"] value
  let typst ← compile.optional "typst"
  let output ← Section.ofValue "output" "struct OutputConfig" ["asset_dir", "progress"] value
  let assetDirectory ← output.require "asset_dir" readText
  let progress ← output.require "progress" readFlag
  .ok ⟨⟨enabled, command, background, scale, puppeteerConfig⟩, typst, assetDirectory, progress⟩

end Settings
end Compositor

import Compositor.Host.System
import Compositor.Shell.Pattern
import Compositor.Shell.Syntax

/-! The state of a running script, and the fields of its words. -/

namespace Compositor.Shell

structure State where
  name : Text
  arguments : List Text
  bindings : List (Text × Text) := []
  status : Nat := 0
  input : Bytes := []
  output : Bytes := []
  outputFile : Option Path := none
  errors : Bytes := []

inductive Flow where
  | next
  | exit
  | signal (number : Nat)

abbrev Run (m : Type → Type) := StateT State m

def ownProcess : Text := "1000"

variable {m : Type → Type} [Monad m]

def write (bytes : Bytes) : Run m Unit :=
  modify fun state => { state with output := state.output ++ bytes }

def say (text : Text) : Run m Unit := write text.toBytes

def complain (text : Text) : Run m Unit :=
  modify fun state => { state with errors := state.errors ++ text.toBytes }

def setStatus (status : Nat) : Run m Unit := modify fun state => { state with status := status }

def assign (name value : Text) : Run m Unit :=
  modify fun state =>
    { state with bindings := (name, value) :: state.bindings.filter (·.1 != name) }

def lookUp (system : System m) (name : Text) : Run m Text := do
  let state ← get
  if name = ['#'] then return Text.ofNat state.arguments.length
  else if name = ['?'] then return Text.ofNat state.status
  else if name = ['$'] then return ownProcess
  else if name = ['@'] ∨ name = ['*'] then return Text.join " " state.arguments
  else if name = ['0'] then return state.name
  else if name.all Char.isDigit then
    return (state.arguments[Text.digitsValue 0 name - 1]?).getD []
  else
    match state.bindings.lookup name with
    | some value => return value
    | none => return (← system.environment? name).getD []

/-- The fields of words that are complete, last first, and one that may go on. -/
structure Fields where
  complete : List Text := []
  current : Option Text := none

namespace Fields

def close (fields : Fields) : Fields :=
  match fields.current with
  | some field => ⟨field :: fields.complete, none⟩
  | none => fields

def toList (fields : Fields) : List Text := fields.close.complete.reverse

def add (fields : Fields) (text : Text) : Fields :=
  { fields with current := some (fields.current.getD [] ++ text) }

def addCut (fields : Fields) (text : Text) : Fields :=
  text.foldl (fun fields character =>
    if character = ' ' ∨ character = '\t' ∨ character = '\n' then fields.close
    else fields.add [character]) fields

def addEach (fields : Fields) : (texts : List Text) → Fields
  | [] => fields
  | [text] => fields.add text
  | text :: texts => addEach (fields.add text).close texts

end Fields

def trimLineEnds (text : Text) : Text := (text.reverse.dropWhile (· == '\n')).reverse

end Compositor.Shell

import Compositor.Text.Basic

/-! Patterns of texts with wildcards. -/

namespace Compositor.Shell

inductive Wildcard where
  | literal (character : Char)
  | anyCharacter
  | anyText

def Wildcard.ofUnquoted (character : Char) : Wildcard :=
  if character = '*' then .anyText else if character = '?' then .anyCharacter else .literal character

def anySuffix (condition : Text → Bool) : Text → Bool
  | [] => condition []
  | character :: text => condition (character :: text) || anySuffix condition text

def isMatch : (pattern : List Wildcard) → (text : Text) → Bool
  | [], text => text.isEmpty
  | .literal _ :: _, [] => false
  | .literal expected :: pattern, character :: text => expected == character && isMatch pattern text
  | .anyCharacter :: _, [] => false
  | .anyCharacter :: pattern, _ :: text => isMatch pattern text
  | .anyText :: pattern, text => anySuffix (isMatch pattern) text

end Compositor.Shell

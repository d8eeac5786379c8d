import Compositor.Number.Shortest
import Compositor.Settings.Value

/-! How values of settings are written in messages. -/

namespace Compositor.Settings

def isHidden (character : Char) : Bool :=
  let code := character.toNat
  code < 0x20 || (0x7F ≤ code && code ≤ 0xA0) || code == 0xAD ||
    (0x2000 ≤ code && code ≤ 0x200F) || (0x2028 ≤ code && code ≤ 0x202F) ||
    (0x205F ≤ code && code ≤ 0x206F) || code == 0x3000 || (0xE000 ≤ code && code ≤ 0xF8FF) ||
    code == 0xFEFF

def hexText (number : Nat) : Text := Nat.toDigits 16 number

def quotedCharacter : Char → Text
  | '\x00' => ['\\', '0']
  | '\t' => ['\\', 't']
  | '\n' => ['\\', 'n']
  | '\r' => ['\\', 'r']
  | '"' => ['\\', '"']
  | '\\' => ['\\', '\\']
  | character =>
      if isHidden character then
        ['\\', 'u', '{'] ++ hexText character.toNat ++ ['}']
      else [character]

def quoted (text : Text) : Text := '"' :: text.flatMap quotedCharacter ++ ['"']

def floatText (number : Binary64) : Text :=
  let text := Binary64.positionalText number
  if number.isFinite && !text.any (· == '.') then text ++ ['.', '0'] else text

def integerText (number : Int) : Text :=
  (if number < 0 then ['-'] else []) ++ Text.ofNat number.natAbs

def Value.describe : Value → Text
  | .scalar _ .nothing => "unit value"
  | .scalar _ (.flag value) => "boolean `" ++ (if value then "true" else "false").toList ++ "`"
  | .scalar _ (.integer value) => "integer `" ++ integerText value ++ "`"
  | .scalar _ (.float value) => "floating point `" ++ floatText value ++ "`"
  | .scalar _ (.text value) => "string " ++ quoted value
  | .list _ _ => "sequence"
  | .table _ => "map"

end Compositor.Settings

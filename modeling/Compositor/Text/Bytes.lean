import Compositor.Text.Basic

/-! Texts as bytes in UTF-8, and back. -/

namespace Compositor

abbrev Bytes := List UInt8

namespace Text

def toBytes (text : Text) : Bytes := text.flatMap String.utf8EncodeChar

def characterLength? (first : UInt8) : Option Nat :=
  if first < 0x80 then some 1
  else if 0xC2 ≤ first ∧ first < 0xE0 then some 2
  else if 0xE0 ≤ first ∧ first < 0xF0 then some 3
  else if 0xF0 ≤ first ∧ first < 0xF5 then some 4
  else none

/-- Whether a byte may follow the first byte of a character: no character has two spellings, and
surrogates and too large codes have none. -/
def mayFollow (first second : UInt8) : Bool :=
  let low : UInt8 := if first = 0xE0 then 0xA0 else if first = 0xF0 then 0x90 else 0x80
  let high : UInt8 := if first = 0xED then 0x9F else if first = 0xF4 then 0x8F else 0xBF
  low ≤ second && second ≤ high

def isContinuation (byte : UInt8) : Bool := 0x80 ≤ byte && byte ≤ 0xBF

def followers (first : UInt8) (count : Nat) : Bytes → Bytes
  | [] => []
  | second :: rest =>
      if 0 < count ∧ mayFollow first second then
        second :: (rest.take (count - 1)).takeWhile isContinuation
      else []

def characterOf (first : UInt8) (others : Bytes) : Char :=
  let lead := match others.length with
    | 0 => first.toNat
    | 1 => first.toNat % 32
    | 2 => first.toNat % 16
    | _ => first.toNat % 8
  Char.ofNat (others.foldl (fun code byte => code * 64 + byte.toNat % 64) lead)

/-- The characters that bytes encode; none stands for a piece that encodes no character. `skip`
counts the bytes of the last piece still to pass. -/
def decodeFrom : (skip : Nat) → Bytes → List (Option Char)
  | _, [] => []
  | skip + 1, _ :: bytes => decodeFrom skip bytes
  | 0, first :: bytes =>
      match characterLength? first with
      | none => none :: decodeFrom 0 bytes
      | some length =>
          let others := followers first (length - 1) bytes
          (if others.length = length - 1 then some (characterOf first others) else none) ::
            decodeFrom others.length bytes

def ofBytes? (bytes : Bytes) : Option Text := (decodeFrom 0 bytes).mapM id

def ofBytesLossy (bytes : Bytes) : Text :=
  (decodeFrom 0 bytes).map fun character => character.getD '\ufffd'

end Text
end Compositor

/-! Texts as lists of characters: trimming, lines, cutting and replacing. -/

namespace Compositor

abbrev Text := List Char

instance : Coe String Text := ⟨String.toList⟩

namespace Text

def isBlank (character : Char) : Bool :=
  let code := character.toNat
  (9 ≤ code && code ≤ 13) || code == 0x20 || code == 0x85 || code == 0xA0 || code == 0x1680 ||
    (0x2000 ≤ code && code ≤ 0x200A) || code == 0x2028 || code == 0x2029 || code == 0x202F ||
    code == 0x205F || code == 0x3000

def trimStart (text : Text) : Text := text.dropWhile isBlank

def trimEnd (text : Text) : Text := (text.reverse.dropWhile isBlank).reverse

def trim (text : Text) : Text := trimEnd (trimStart text)

def stripStart? : (piece text : Text) → Option Text
  | [], text => some text
  | _ :: _, [] => none
  | expected :: piece, found :: text =>
      if expected = found then stripStart? piece text else none

def stripEnd? (piece text : Text) : Option Text :=
  (stripStart? piece.reverse text.reverse).map List.reverse

def startsWith (piece text : Text) : Bool := (stripStart? piece text).isSome

def cut? (piece : Text) : (text : Text) → Option (Text × Text)
  | [] => (stripStart? piece []).map fun rest => ([], rest)
  | character :: text =>
      match stripStart? piece (character :: text) with
      | some rest => some ([], rest)
      | none => (cut? piece text).map fun (before, after) => (character :: before, after)

def contains (piece text : Text) : Bool := (cut? piece text).isSome

/-- Replacement from left to right; `skip` counts the characters of an occurrence still to pass. -/
def replaceFrom (piece replacement : Text) : (skip : Nat) → (text : Text) → Text
  | _, [] => []
  | skip + 1, _ :: text => replaceFrom piece replacement skip text
  | 0, character :: text =>
      if startsWith piece (character :: text) then
        replacement ++ replaceFrom piece replacement (piece.length - 1) text
      else character :: replaceFrom piece replacement 0 text

def replaceAll (piece replacement text : Text) : Text := replaceFrom piece replacement 0 text

/-- The lines of a text without their ends, a line feed or a carriage return and a line feed.
An empty line after the last line end does not count. -/
def lines : (text : Text) → List Text
  | [] => []
  | '\n' :: text => [] :: lines text
  | '\r' :: '\n' :: text => [] :: lines text
  | character :: text =>
      match lines text with
      | [] => [[character]]
      | line :: more => (character :: line) :: more

def split (separator : Char → Bool) : (text : Text) → List Text
  | [] => [[]]
  | character :: text =>
      match split separator text with
      | [] => [[character]]
      | piece :: more =>
          if separator character then [] :: piece :: more else (character :: piece) :: more

def words (text : Text) : List Text := (split isBlank text).filter (! ·.isEmpty)

def join (separator : Text) : (pieces : List Text) → Text
  | [] => []
  | [piece] => piece
  | piece :: next :: pieces => piece ++ separator ++ join separator (next :: pieces)

def ofNat (number : Nat) : Text := Nat.toDigits 10 number

def digitsValue (value : Nat) (digits : Text) : Nat :=
  digits.foldl (fun total digit => total * 10 + (digit.toNat - '0'.toNat)) value

def digitValue? (digit : Char) : Option Nat :=
  if digit.isDigit then some (digit.toNat - '0'.toNat)
  else if 'a' ≤ digit ∧ digit ≤ 'f' then some (digit.toNat - 'a'.toNat + 10)
  else if 'A' ≤ digit ∧ digit ≤ 'F' then some (digit.toNat - 'A'.toNat + 10)
  else none

def numberInBase? (base : Nat) (digits : Text) : Option Nat :=
  if digits.isEmpty then none
  else digits.foldlM (fun total digit =>
    ((digitValue? digit).filter (· < base)).map (total * base + ·)) 0

theorem split_ne_nil (separator : Char → Bool) (text : Text) : split separator text ≠ [] := by
  cases text with
  | nil => simp [split]
  | cons character text =>
      simp only [split]
      split
      next => simp
      next =>
        split <;> simp

theorem stripStart?_append (piece text : Text) : stripStart? piece (piece ++ text) = some text := by
  induction piece with
  | nil => rfl
  | cons character piece ih => simpa [stripStart?] using ih

theorem stripStart?_eq_some {piece text rest : Text} :
    stripStart? piece text = some rest ↔ text = piece ++ rest := by
  constructor
  · intro found
    induction piece generalizing text with
    | nil => simpa [stripStart?] using found
    | cons expected piece ih =>
        cases text with
        | nil => simp [stripStart?] at found
        | cons character text =>
            simp only [stripStart?] at found
            split at found
            next same => simp [same, ih found]
            next => simp at found
  · rintro rfl
    exact stripStart?_append piece rest

end Text
end Compositor

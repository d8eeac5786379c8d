import Compositor.Text.Bytes

/-! What `echo` and `printf` write. -/

namespace Compositor.Shell

def escape? : Char → Option UInt8
  | 'a' => some 7
  | 'b' => some 8
  | 't' => some 9
  | 'n' => some 10
  | 'v' => some 11
  | 'f' => some 12
  | 'r' => some 13
  | 'e' => some 27
  | '\\' => some 92
  | _ => none

def isOctal (digit : Char) : Bool := '0' ≤ digit && digit ≤ '7'

def octalDigits (text : Text) : Text := (text.take 3).takeWhile isOctal

/-- The byte of an octal number, which keeps its low eight bits. -/
def octalByte (digits : Text) : UInt8 :=
  UInt8.ofNat (digits.foldl (fun total digit => total * 8 + (digit.toNat - '0'.toNat)) 0)

/-- What the text after a backslash stands for, and the number of its characters that belong to the
escape. A letter without a meaning is written with its backslash. If `zero`, a zero may stand before
the three digits of a number. -/
def readEscape (zero : Bool) : Text → Bytes × Nat
  | [] => (Text.toBytes ['\\'], 0)
  | letter :: text =>
      if isOctal letter then
        let front := if zero && letter == '0' then 1 else 0
        let digits := octalDigits ((letter :: text).drop front)
        ([octalByte digits], front + digits.length)
      else
        match escape? letter with
        | some meant => ([meant], 1)
        | none => (Text.toBytes ['\\', letter], 1)

/-- The text with its escapes replaced, and whether all of it was written: the escape `\c` ends it.
The number counts characters of an escape still to pass. -/
def unescape : (skip : Nat) → Text → Bytes × Bool
  | _, [] => ([], true)
  | skip + 1, _ :: text => unescape skip text
  | 0, '\\' :: 'c' :: _ => ([], false)
  | 0, '\\' :: text =>
      let (meant, taken) := readEscape true text
      let (bytes, whole) := unescape taken text
      (meant ++ bytes, whole)
  | 0, character :: text =>
      let (bytes, whole) := unescape 0 text
      (String.utf8EncodeChar character ++ bytes, whole)

def echo (arguments : List Text) : Bytes :=
  let (ended, arguments) := match arguments with
    | ['-', 'n'] :: arguments => (false, arguments)
    | arguments => (true, arguments)
  let (bytes, whole) := unescape 0 (Text.join " " arguments)
  if ended && whole then bytes ++ [10] else bytes

def directed (directive : Char) (argument : Text) : Bytes :=
  if directive = 'b' then (unescape 0 argument).1
  else if directive = 'c' then Text.toBytes (argument.take 1)
  else if directive = 's' then argument.toBytes
  else if argument.isEmpty then Text.toBytes ['0'] else argument.toBytes

/-- One pass over the format of `printf`: what is written and the arguments left. The number counts
characters of an escape still to pass. -/
def formatOnce : (skip : Nat) → (format : Text) → (arguments : List Text) → Bytes × List Text
  | _, [], arguments => ([], arguments)
  | skip + 1, _ :: format, arguments => formatOnce skip format arguments
  | 0, '\\' :: format, arguments =>
      let (meant, taken) := readEscape false format
      let (bytes, left) := formatOnce taken format arguments
      (meant ++ bytes, left)
  | 0, '%' :: '%' :: format, arguments =>
      let (bytes, left) := formatOnce 0 format arguments
      (Text.toBytes ['%'] ++ bytes, left)
  | 0, '%' :: directive :: format, arguments =>
      let (bytes, left) := formatOnce 0 format (arguments.drop 1)
      (directed directive (arguments.head?.getD []) ++ bytes, left)
  | 0, character :: format, arguments =>
      let (bytes, left) := formatOnce 0 format arguments
      (String.utf8EncodeChar character ++ bytes, left)

/-- The format is used again while arguments are left and each pass takes one. -/
def formatAll (format : Text) : (fuel : Nat) → (arguments : List Text) → Bytes
  | 0, _ => []
  | fuel + 1, arguments =>
      let (bytes, left) := formatOnce 0 format arguments
      if left.isEmpty ∨ left.length = arguments.length then bytes
      else bytes ++ formatAll format fuel left

def printf (format : Text) (arguments : List Text) : Bytes :=
  formatAll format (arguments.length + 1) arguments

end Compositor.Shell

import Compositor.Markup.Emphasis
import Compositor.Markup.Setting
import Compositor.Path.Relative

/-! Header and footer cells: plain text with light emphasis and placeholders in braces. -/

namespace Compositor.Markup

inductive Segment where
  | literal (text : Text)
  | page
  | totalPages
  | date (format : Option Text)
  | logo (path : Path) (height : Option Text)
  deriving DecidableEq

def openBrace : Text := r"{"
def closeBrace : Text := r"}"

def inBraces (text : Text) : Text := openBrace ++ text ++ closeBrace

def Segment.source : Segment → Text
  | .literal text => text
  | .page => inBraces "page"
  | .totalPages => inBraces "total-pages"
  | .date none => inBraces "date"
  | .date (some format) => inBraces ("date:" ++ format)
  | .logo path none => inBraces ("logo:" ++ path)
  | .logo path (some height) => inBraces ("logo:" ++ path ++ ":" ++ height)

def logoSegment? (text : Text) : Option Segment :=
  match Text.cut? ":" text with
  | none => if text.isEmpty then none else some (.logo text none)
  | some (path, height) =>
      if path.isEmpty || height.isEmpty then none else some (.logo path (some height))

def placeholder? (text : Text) : Option Segment :=
  if text = "page".toList then some .page
  else if text = "total-pages".toList then some .totalPages
  else if text = "date".toList then some (.date none)
  else match Text.stripStart? "date:" text with
    | some format => if format.isEmpty then none else some (.date (some format))
    | none =>
        match Text.stripStart? "logo:" text with
        | some logo => logoSegment? logo
        | none => none

def readPlaceholder? (text : Text) : Option (Segment × Text) :=
  match Text.cut? closeBrace text with
  | some (inner, rest) => (placeholder? inner).map fun segment => (segment, rest)
  | none => none

theorem readPlaceholder?_length {text rest : Text} {segment : Segment}
    (found : readPlaceholder? text = some (segment, rest)) : rest.length < text.length := by
  simp only [readPlaceholder?] at found
  split at found
  next inner after cutFound =>
    simp only [Option.map_eq_some_iff, Prod.mk.injEq] at found
    obtain ⟨_, _, _, rfl⟩ := found
    have := cut?_length cutFound
    simp only [closeBrace, String.reduceToList, List.length_cons, List.length_nil] at this
    omega
  next => simp at found

def consSegment (character : Char) : List Segment → List Segment
  | .literal text :: segments => .literal (character :: text) :: segments
  | segments => .literal [character] :: segments

/-- The segments of a cell, read from left to right. A brace that starts no placeholder is
literal text. -/
def tokenize (text : Text) : List Segment :=
  match text with
  | [] => []
  | character :: rest =>
      match _found : if character = '{' then readPlaceholder? rest else none with
      | some (segment, after) => segment :: tokenize after
      | none => consSegment character (tokenize rest)
  termination_by text.length
  decreasing_by
    · split at _found
      next =>
        have := readPlaceholder?_length _found
        simp only [List.length_cons]
        omega
      next => simp at _found
    · simp

def datePattern : (format : Text) → Text
  | 'Y' :: 'Y' :: 'Y' :: 'Y' :: rest => "[year]" ++ datePattern rest
  | 'M' :: 'M' :: rest => "[month]" ++ datePattern rest
  | 'D' :: 'D' :: rest => "[day]" ++ datePattern rest
  | character :: rest => character :: datePattern rest
  | [] => []

/-- A logo is copied into the asset directory under its base name. -/
def logoCopy (places : Places) (path : Path) : AssetCopy where
  source := Path.join places.source path
  destination := Path.join (Path.join places.output places.assets) ((Path.fileName? path).getD path)

def logoMarkup (places : Places) (path : Path) (height : Option Text) : Text :=
  "#image(\"" ++ Path.relativeTo (logoCopy places path).destination places.output ++
    "\", height: " ++ height.getD "1em" ++ ")"

def Segment.markup (places : Places) : Segment → Text
  | .literal text => text
  | .page => "#counter(page).display()"
  | .totalPages => "#counter(page).final().last()"
  | .date format =>
      "#datetime.today().display(\"" ++
        (format.map datePattern).getD "[year]-[month]-[day]" ++ "\")"
  | .logo path height => logoMarkup places path height

/-- Page numbers are known only when the page is laid out. -/
def Segment.isDeferred : Segment → Bool
  | .page | .totalPages => true
  | _ => false

def Segment.copy? (places : Places) : Segment → Option AssetCopy
  | .logo path _ => some (logoCopy places path)
  | _ => none

structure ResolvedCell where
  deferred : Bool
  markup : Text
  deriving DecidableEq

def ResolvedCell.display (cell : ResolvedCell) : Text :=
  if cell.deferred then "context [" ++ cell.markup ++ "]" else cell.markup

def ResolvedCell.gridCell (cell : ResolvedCell) : Text :=
  if cell.deferred then cell.display else "[" ++ cell.markup ++ "]"

def cellSegments (text : Text) : List Segment := tokenize (emphasize text)

def resolveCell (places : Places) (text : Text) : ResolvedCell where
  deferred := (cellSegments text).any Segment.isDeferred
  markup := (cellSegments text).flatMap (Segment.markup places)

def cellCopies (places : Places) (text : Text) : List AssetCopy :=
  (cellSegments text).filterMap (Segment.copy? places)

end Compositor.Markup

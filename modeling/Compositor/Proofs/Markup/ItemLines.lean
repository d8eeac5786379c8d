import Compositor.Proofs.Markup.Block
import Compositor.Proofs.Text.Lines

/-! The lines of a list. Every item starts one line with the marker, and its other lines are indented
behind it, so the lines of the list are read back as the lines of its items. -/

namespace Compositor.Markup

open Text

def startsItem (line : Text) : Bool := line.head?.any (· != ' ')

/-- The items of a list by its lines, and the lines before the first item. Both the marker and the
indentation are two characters. -/
def readItems : (lines : List Text) → List Text × List (List Text)
  | [] => ([], [])
  | line :: lines =>
      let (following, items) := readItems lines
      if startsItem line then ([], (line.drop 2 :: following) :: items)
      else (line.drop 2 :: following, items)

structure ShowsItems (marker : Char) (contents : List Text) (output : Text) : Prop where
  starts : (feedLines output).filter startsItem =
    contents.map fun content => marker :: ' ' :: (plainLines content).headD []
  indented : ∀ line ∈ feedLines output, line ≠ [] → startsItem line = false →
    ∃ rest, line = ' ' :: ' ' :: rest
  read : ∃ lines, feedLines output = lines ++ [[], []] ∧
    readItems lines = ([], contents.map plainLines)

variable (setting : Setting) (titleMode : Bool)

def itemContents : (items : List (List Node)) → Progress → List Text
  | [], _ => []
  | children :: items, progress =>
      let (content, progress) := itemContent setting titleMode [] children progress
      trim content :: itemContents items progress

/-! The lines of one item. -/

def itemLines (marker : Char) (content : Text) : List Text :=
  match plainLines content with
  | [] => []
  | first :: following => (marker :: ' ' :: first) :: following.map indentLine

theorem trim_getLast? {text : Text} {last : Char} (ends : (trim text).getLast? = some last) :
    isBlank last = false := by
  rw [trim, trimEnd, List.getLast?_reverse] at ends
  have notBlank := List.head?_dropWhile_not isBlank (trimStart text).reverse
  rwa [ends] at notBlank

theorem lines_trim {text : Text} (filled : trim text ≠ []) :
    lines (trim text) = plainLines (trim text) := by
  refine lines_eq_plainLines filled ?_
  intro feed
  exact absurd (trim_getLast? feed) (by decide)

theorem indentRest_trim (text : Text) : ∃ first following,
    plainLines (trim text) = first :: following ∧
      indentRest (trim text) = first ++ following.flatMap ('\n' :: indentLine ·) := by
  by_cases filled : trim text = []
  · refine ⟨[], [], ?_, ?_⟩
    · rw [filled]
      rfl
    · rw [filled]
      rfl
  · have same := lines_trim filled
    unfold indentRest
    rw [same]
    cases found : plainLines (trim text) with
    | nil =>
        rw [found, lines_eq_nil_iff] at same
        exact absurd same filled
    | cons first following => exact ⟨first, following, rfl, rfl⟩

theorem itemLines_written (marker : Char) (text : Text) :
    marker :: ' ' :: (indentRest (trim text) ++ ['\n']) =
      (itemLines marker (trim text)).flatMap (· ++ ['\n']) := by
  obtain ⟨first, following, lines, indented⟩ := indentRest_trim text
  have written := below_written (marker :: ' ' :: first) (following.map indentLine)
  rw [List.flatMap_map] at written
  rw [itemLines, lines, indented, ← written]
  rfl

theorem itemLines_shape (marker : Char) (content : Text) : ∃ first following,
    plainLines content = first :: following ∧
      itemLines marker content = (marker :: ' ' :: first) :: following.map indentLine := by
  unfold itemLines
  cases found : plainLines content with
  | nil => exact absurd found (split_ne_nil _ _)
  | cons first following => exact ⟨first, following, rfl, rfl⟩

theorem indentLine_cases (line : Text) :
    indentLine line = [] ∧ line = [] ∨ indentLine line = ' ' :: ' ' :: line := by
  cases line with
  | nil => exact .inl ⟨rfl, rfl⟩
  | cons character line => exact .inr rfl

theorem startsItem_indentLine (line : Text) : startsItem (indentLine line) = false := by
  rcases indentLine_cases line with ⟨indented, -⟩ | indented
  · rw [indented]
    rfl
  · rw [indented]
    rfl

theorem drop_indentLine (line : Text) : (indentLine line).drop 2 = line := by
  rcases indentLine_cases line with ⟨indented, rfl⟩ | indented
  · rw [indented]
    rfl
  · rw [indented]
    rfl

theorem startsItem_marker {marker : Char} (notSpace : marker ≠ ' ') (line : Text) :
    startsItem (marker :: line) = true := by
  simp [startsItem, notSpace]

theorem itemLines_oneLine {marker : Char} (notFeed : marker ≠ '\n') {content line : Text}
    (isLine : line ∈ itemLines marker content) : '\n' ∉ line := by
  obtain ⟨first, following, lines, shape⟩ := itemLines_shape marker content
  have oneLine : ∀ line ∈ first :: following, '\n' ∉ line := by
    intro line member
    exact oneLine_of_mem_feedLines (lines ▸ member)
  rw [shape] at isLine
  rcases List.mem_cons.mp isLine with rfl | later
  · have firstLine := oneLine first (.head _)
    simp [notFeed.symm, firstLine]
  · obtain ⟨inner, member, rfl⟩ := List.mem_map.mp later
    have innerLine := oneLine inner (.tail _ member)
    rcases indentLine_cases inner with ⟨indented, -⟩ | indented
    · simp [indented]
    · simp [indented, innerLine]

theorem filter_itemLines {marker : Char} (notSpace : marker ≠ ' ') (content : Text) :
    (itemLines marker content).filter startsItem =
      [marker :: ' ' :: (plainLines content).headD []] := by
  obtain ⟨first, following, lines, shape⟩ := itemLines_shape marker content
  have none : (following.map indentLine).filter startsItem = [] := by
    simp [startsItem_indentLine]
  rw [shape, List.filter_cons_of_pos (startsItem_marker notSpace _), none, lines]
  rfl

/-! The lines of the items, one item below the other. -/

theorem readItems_following (following lines : List Text) :
    readItems (following.map indentLine ++ lines) =
      (following ++ (readItems lines).1, (readItems lines).2) := by
  induction following with
  | nil => rfl
  | cons line following ih =>
      simp [readItems, ih, startsItem_indentLine, drop_indentLine]

theorem readItems_itemLines {marker : Char} (notSpace : marker ≠ ' ') (contents : List Text) :
    readItems (contents.flatMap (itemLines marker)) = ([], contents.map plainLines) := by
  induction contents with
  | nil => rfl
  | cons content contents ih =>
      obtain ⟨first, following, lines, shape⟩ := itemLines_shape marker content
      rw [List.flatMap_cons, shape, List.cons_append, readItems, readItems_following, ih]
      simp [startsItem_marker notSpace, lines]

theorem showsItems {marker : Char} (notSpace : marker ≠ ' ') (notFeed : marker ≠ '\n')
    (contents : List Text) :
    ShowsItems marker contents
      ((contents.flatMap (itemLines marker)).flatMap (· ++ ['\n']) ++ ['\n']) := by
  have written : feedLines ((contents.flatMap (itemLines marker)).flatMap (· ++ ['\n']) ++ ['\n']) =
      contents.flatMap (itemLines marker) ++ [[], []] := by
    refine feedLines_written ?_ ['\n']
    intro line member
    obtain ⟨content, -, isLine⟩ := List.mem_flatMap.mp member
    exact itemLines_oneLine notFeed isLine
  constructor
  case starts =>
    rw [written, List.filter_append, List.filter_flatMap]
    simp only [filter_itemLines notSpace]
    simp [startsItem, ← List.map_eq_flatMap]
  case indented =>
    intro line member filled notStart
    rw [written] at member
    rcases List.mem_append.mp member with inItem | blank
    · obtain ⟨content, -, isLine⟩ := List.mem_flatMap.mp inItem
      obtain ⟨first, following, -, shape⟩ := itemLines_shape marker content
      rw [shape] at isLine
      rcases List.mem_cons.mp isLine with rfl | later
      · rw [startsItem_marker notSpace] at notStart
        cases notStart
      · obtain ⟨inner, -, rfl⟩ := List.mem_map.mp later
        rcases indentLine_cases inner with ⟨indented, -⟩ | indented
        · exact absurd indented filled
        · exact ⟨inner, indented⟩
    · simp only [List.mem_cons, List.not_mem_nil, or_false, or_self] at blank
      exact absurd blank filled
  case read => exact ⟨_, written, readItems_itemLines notSpace contents⟩

/-! The list. -/

theorem listItems_written (marker : Char) (items : List (List Node)) (progress : Progress) :
    (listItems setting titleMode marker (items.map .listItem) progress).1 =
      ((itemContents setting titleMode items progress).flatMap (itemLines marker)).flatMap
        (· ++ ['\n']) := by
  induction items generalizing progress with
  | nil => rfl
  | cons children items ih =>
      rw [List.map_cons, listItems, block_listItem, itemContents]
      simp only [ih]
      rw [List.flatMap_cons, List.flatMap_append, ← itemLines_written]
      rfl

theorem list_written (ordered : Bool) (items : List (List Node)) (progress : Progress) :
    (list setting titleMode ordered (items.map .listItem) progress).1 =
      ((itemContents setting titleMode items progress).flatMap
        (itemLines (listMarker ordered))).flatMap (· ++ ['\n']) ++ ['\n'] := by
  have written := listItems_written setting titleMode (listMarker ordered) items progress
  rw [← written]
  rfl

/-- The lines of a list show each item with its content, and nothing else. -/
theorem list_showsItems (ordered : Bool) (items : List (List Node)) (progress : Progress) :
    ShowsItems (listMarker ordered) (itemContents setting titleMode items progress)
      (list setting titleMode ordered (items.map .listItem) progress).1 := by
  rw [list_written]
  cases ordered with
  | false => exact showsItems (by decide) (by decide) _
  | true => exact showsItems (by decide) (by decide) _

end Compositor.Markup

import Compositor.Proofs.Markup.Indentation
import Compositor.Proofs.Markup.ItemLines

/-! Lists of paragraphs with lists below them. Such a list is written as one row for each item, in
preorder, indented by its depth, and the rows tell the list. -/

namespace Compositor.Markup

open Text

mutual
inductive Entry (Label : Type) where
  | plain (label : Label)
  | parent (label : Label) (ordered : Bool) (below : Entries Label)

inductive Entries (Label : Type) where
  | last (entry : Entry Label)
  | cons (entry : Entry Label) (more : Entries Label)
end

mutual
def Entry.map {Label Other : Type} (relabel : Label → Other) : Entry Label → Entry Other
  | .plain label => .plain (relabel label)
  | .parent label ordered below => .parent (relabel label) ordered (below.map relabel)

def Entries.map {Label Other : Type} (relabel : Label → Other) : Entries Label → Entries Other
  | .last entry => .last (entry.map relabel)
  | .cons entry more => .cons (entry.map relabel) (more.map relabel)
end

mutual
def Entry.children : Entry (List Node) → List Node
  | .plain paragraph => [.paragraph paragraph]
  | .parent paragraph ordered below =>
      [.paragraph paragraph, .list ordered (below.items.map .listItem)]

def Entries.items : Entries (List Node) → List (List Node)
  | .last entry => [entry.children]
  | .cons entry more => entry.children :: more.items
end

structure Row where
  depth : Nat
  ordered : Bool
  text : Text

def Row.line (row : Row) : Text :=
  List.replicate (2 * row.depth) ' ' ++ listMarker row.ordered :: ' ' :: row.text

mutual
def Entry.rows (depth : Nat) (ordered : Bool) : Entry Text → List Row
  | .plain text => [⟨depth, ordered, text⟩]
  | .parent text inner below => ⟨depth, ordered, text⟩ :: below.rows (depth + 1) inner

def Entries.rows (depth : Nat) (ordered : Bool) : Entries Text → List Row
  | .last entry => entry.rows depth ordered
  | .cons entry more => entry.rows depth ordered ++ more.rows depth ordered
end

/-! Rows as lines. -/

namespace Row

def deeper (row : Row) : Row := { row with depth := row.depth + 1 }

theorem line_deeper (row : Row) : row.deeper.line = indentLine row.line := by
  have filled : row.line ≠ [] := by simp [line]
  rcases indentLine_cases row.line with ⟨-, empty⟩ | indented
  · exact absurd empty filled
  · rw [indented, line, deeper, Nat.mul_succ, List.replicate_succ, List.replicate_succ]
    rfl

theorem line_isLine {row : Row} (solid : Solid row.text) : IsLine row.line := by
  obtain ⟨before, last, shape, notBlank⟩ := solid.back
  constructor
  · have oneLine := solid.oneLine
    unfold line
    cases row.ordered <;> simp [listMarker, oneLine]
  · refine ⟨List.replicate (2 * row.depth) ' ' ++ listMarker row.ordered :: ' ' :: before,
      last, ?_, notBlank⟩
    rw [line, shape]
    simp

theorem spaces_parted {first second : Char} {rest more : Text} (filled : first ≠ ' ')
    (otherFilled : second ≠ ' ') {count other : Nat}
    (same : List.replicate count ' ' ++ first :: rest =
      List.replicate other ' ' ++ second :: more) :
    count = other ∧ first = second ∧ rest = more := by
  induction count generalizing other with
  | zero =>
      cases other with
      | zero => simpa using same
      | succ other =>
          simp only [List.replicate_succ, List.replicate_zero, List.nil_append, List.cons_append,
            List.cons.injEq] at same
          exact absurd same.1 filled
  | succ count ih =>
      cases other with
      | zero =>
          simp only [List.replicate_succ, List.replicate_zero, List.nil_append, List.cons_append,
            List.cons.injEq] at same
          exact absurd same.1.symm otherFilled
      | succ other =>
          simp only [List.replicate_succ, List.cons_append, List.cons.injEq, true_and] at same
          obtain ⟨counts, behind⟩ := ih same
          exact ⟨by omega, behind⟩

theorem line_injective {row other : Row} (same : row.line = other.line) : row = other := by
  have notSpace (ordered : Bool) : listMarker ordered ≠ ' ' := by
    cases ordered <;> decide
  obtain ⟨counts, markers, texts⟩ := spaces_parted (notSpace _) (notSpace _) same
  have depths : row.depth = other.depth := by omega
  have flags : row.ordered = other.ordered := by
    cases flag : row.ordered <;> cases otherFlag : other.ordered <;>
      simp_all [listMarker]
  obtain ⟨depth, ordered, text⟩ := row
  simp only [List.cons.injEq, true_and] at texts
  simp_all

end Row

mutual
theorem Entry.rows_succ (entry : Entry Text) (depth : Nat) (ordered : Bool) :
    entry.rows (depth + 1) ordered = (entry.rows depth ordered).map Row.deeper := by
  cases entry with
  | plain text => rfl
  | parent text inner below =>
      simp only [Entry.rows, List.map_cons, below.rows_succ (depth + 1) inner]
      rfl

theorem Entries.rows_succ (entries : Entries Text) (depth : Nat) (ordered : Bool) :
    entries.rows (depth + 1) ordered = (entries.rows depth ordered).map Row.deeper := by
  cases entries with
  | last entry => exact entry.rows_succ depth ordered
  | cons entry more =>
      simp only [Entries.rows, List.map_append, entry.rows_succ depth ordered,
        more.rows_succ depth ordered]
end

/-! Writing the rows. -/

section Written

variable (setting : Setting) (titleMode : Bool)

theorem itemLines_below {text : Text} (solid : Solid text) {below : List Text}
    (areLines : ∀ line ∈ below, IsLine line) (marker : Char) {blank : Text}
    (areBlank : ∀ character ∈ blank, isBlank character = true) :
    itemLines marker (trim (text ++ below.flatMap ('\n' :: ·) ++ blank)) =
      (marker :: ' ' :: text) :: below.map indentLine := by
  have allLines : ∀ line ∈ text :: below, IsLine line := by
    intro line member
    rcases List.mem_cons.mp member with rfl | later
    · exact ⟨solid.oneLine, solid.back⟩
    · exact areLines line later
  have front : ∃ first rest, text ++ below.flatMap ('\n' :: ·) = first :: rest ∧
      isBlank first = false := by
    obtain ⟨first, rest, rfl, notBlank⟩ := solid.front
    exact ⟨first, rest ++ below.flatMap ('\n' :: ·), rfl, notBlank⟩
  rw [trim_append_blank front (below_back allLines) areBlank, itemLines, plainLines_below allLines]

theorem itemContent_parent (paragraph : List Node) {ordered : Bool} {items : List (List Node)}
    {lines : List Text} {progress : Progress}
    (written : (itemContents setting titleMode items progress).flatMap
      (itemLines (listMarker ordered)) = lines) :
    (itemContent setting titleMode []
        [.paragraph paragraph, .list ordered (items.map .listItem)] progress).1 =
      inlines paragraph ++ lines.flatMap ('\n' :: ·) ++ ['\n', '\n'] := by
  have inner := listItems_written setting titleMode (listMarker ordered) items progress
  have below := below_written (inlines paragraph) lines
  have twice : (['\n', '\n'] : Text) = ['\n'] ++ ['\n'] := rfl
  rw [twice, ← List.append_assoc, below]
  simp [itemContent, itemBreak, inner, written]

mutual
theorem Entry.itemLines_eq (entry : Entry (List Node)) {ordered : Bool}
    (solid : ∀ row ∈ (entry.map inlines).rows 0 ordered, Solid row.text) (progress : Progress) :
    itemLines (listMarker ordered)
        (trim (itemContent setting titleMode [] entry.children progress).1) =
      ((entry.map inlines).rows 0 ordered).map Row.line := by
  cases entry with
  | plain paragraph =>
      have label : Solid (inlines paragraph) := solid _ (.head _)
      have noLines : ∀ line ∈ ([] : List Text), IsLine line := by simp
      have noBlank : ∀ character ∈ ([] : Text), isBlank character = true := by simp
      have written := itemLines_below label noLines (listMarker ordered) noBlank
      rw [List.flatMap_nil, List.append_nil, List.append_nil] at written
      exact written
  | parent paragraph inner below =>
      have label : Solid (inlines paragraph) := solid _ (.head _)
      have inside : ∀ row ∈ (below.map inlines).rows 0 inner, Solid row.text := by
        intro row member
        have isBelow : row.deeper ∈ (below.map inlines).rows 1 inner := by
          rw [Entries.rows_succ]
          exact List.mem_map_of_mem member
        exact solid row.deeper (.tail _ isBelow)
      have areLines : ∀ line ∈ ((below.map inlines).rows 0 inner).map Row.line, IsLine line := by
        intro line member
        obtain ⟨row, isRow, rfl⟩ := List.mem_map.mp member
        exact Row.line_isLine (inside row isRow)
      have blank : ∀ character ∈ ['\n', '\n'], isBlank character = true := by
        intro character member
        obtain rfl : character = '\n' := by simpa using member
        decide
      have written := itemLines_below label areLines (listMarker ordered) blank
      rw [Entry.children, itemContent_parent setting titleMode paragraph
        (below.itemLines_eq inside progress), written]
      simp only [Entry.map, Entry.rows, Entries.rows_succ, List.map_cons, List.map_map]
      congr 1
      refine List.map_congr_left ?_
      intro row _
      exact row.line_deeper.symm

theorem Entries.itemLines_eq (entries : Entries (List Node)) {ordered : Bool}
    (solid : ∀ row ∈ (entries.map inlines).rows 0 ordered, Solid row.text) (progress : Progress) :
    (itemContents setting titleMode entries.items progress).flatMap
        (itemLines (listMarker ordered)) =
      ((entries.map inlines).rows 0 ordered).map Row.line := by
  cases entries with
  | last entry =>
      simp only [Entries.items, itemContents, List.flatMap_singleton]
      exact entry.itemLines_eq solid progress
  | cons entry more =>
      simp only [Entries.map, Entries.rows, List.mem_append] at solid
      have first := entry.itemLines_eq (fun row member => solid row (.inl member)) progress
      have rest := more.itemLines_eq fun row member => solid row (.inr member)
      simp only [Entries.items, itemContents, List.flatMap_cons, Entries.map, Entries.rows,
        List.map_append, first, rest]
end

end Written

/-! Reading the rows. -/

def Above (depth : Nat) (rows : List Row) : Prop := ∀ row ∈ rows.head?, row.depth < depth

theorem Above.succ {depth : Nat} {rows : List Row} (above : Above depth rows) :
    Above (depth + 1) rows := by
  intro row first
  have bound := above row first
  omega

theorem Entries.rows_head (entries : Entries Text) (depth : Nat) (ordered : Bool) :
    ∃ text rows, entries.rows depth ordered = ⟨depth, ordered, text⟩ :: rows := by
  have head (entry : Entry Text) : ∃ text rows,
      entry.rows depth ordered = ⟨depth, ordered, text⟩ :: rows := by
    cases entry with
    | plain text => exact ⟨text, [], rfl⟩
    | parent text inner below => exact ⟨text, below.rows (depth + 1) inner, rfl⟩
  cases entries with
  | last entry => exact head entry
  | cons entry more =>
      obtain ⟨text, rows, shape⟩ := head entry
      refine ⟨text, rows ++ more.rows depth ordered, ?_⟩
      rw [Entries.rows, shape]
      rfl

theorem Entries.rows_notAbove (entries : Entries Text) (depth : Nat) (ordered : Bool)
    (behind : List Row) : ¬ Above depth (entries.rows depth ordered ++ behind) := by
  obtain ⟨text, rows, shape⟩ := entries.rows_head depth ordered
  intro above
  rw [shape] at above
  have bound := above ⟨depth, ordered, text⟩ rfl
  simp at bound

theorem Entries.rows_above (entries : Entries Text) (depth : Nat) (ordered : Bool)
    (behind : List Row) : Above (depth + 1) (entries.rows depth ordered ++ behind) := by
  obtain ⟨text, rows, shape⟩ := entries.rows_head depth ordered
  intro row first
  rw [shape] at first
  cases first
  exact Nat.lt_succ_self depth

mutual
theorem Entry.rows_cancel (entry other : Entry Text) {depth : Nat} {ordered otherOrdered : Bool}
    {rest more : List Row} (above : Above (depth + 1) rest) (moreAbove : Above (depth + 1) more)
    (same : entry.rows depth ordered ++ rest = other.rows depth otherOrdered ++ more) :
    entry = other ∧ ordered = otherOrdered ∧ rest = more := by
  cases entry with
  | plain text =>
      cases other with
      | plain otherText => simp_all [Entry.rows]
      | parent otherText inner below =>
          simp only [Entry.rows, List.cons_append, List.nil_append, List.cons.injEq] at same
          rw [same.2] at above
          exact absurd above (below.rows_notAbove _ _ _)
  | parent text inner below =>
      cases other with
      | plain otherText =>
          simp only [Entry.rows, List.cons_append, List.nil_append, List.cons.injEq] at same
          rw [← same.2] at moreAbove
          exact absurd moreAbove (below.rows_notAbove _ _ _)
      | parent otherText otherInner otherBelow =>
          simp only [Entry.rows, List.cons_append, List.cons.injEq, Row.mk.injEq,
            true_and] at same
          obtain ⟨⟨rfl, rfl⟩, behind⟩ := same
          obtain ⟨rfl, rfl, rfl⟩ := below.rows_cancel otherBelow above moreAbove behind
          exact ⟨rfl, rfl, rfl⟩

theorem Entries.rows_cancel (entries others : Entries Text) {depth : Nat}
    {ordered otherOrdered : Bool} {rest more : List Row} (above : Above depth rest)
    (moreAbove : Above depth more)
    (same : entries.rows depth ordered ++ rest = others.rows depth otherOrdered ++ more) :
    entries = others ∧ ordered = otherOrdered ∧ rest = more := by
  cases entries with
  | last entry =>
      cases others with
      | last other =>
          obtain ⟨rfl, rfl, rfl⟩ := entry.rows_cancel other above.succ moreAbove.succ same
          exact ⟨rfl, rfl, rfl⟩
      | cons other others =>
          rw [Entries.rows, Entries.rows, List.append_assoc] at same
          obtain ⟨-, -, rfl⟩ :=
            entry.rows_cancel other above.succ (others.rows_above _ _ _) same
          exact absurd above (others.rows_notAbove _ _ _)
  | cons entry entries =>
      cases others with
      | last other =>
          rw [Entries.rows, Entries.rows, List.append_assoc] at same
          obtain ⟨-, -, rfl⟩ :=
            entry.rows_cancel other (entries.rows_above _ _ _) moreAbove.succ same
          exact absurd moreAbove (entries.rows_notAbove _ _ _)
      | cons other others =>
          rw [Entries.rows, Entries.rows, List.append_assoc, List.append_assoc] at same
          obtain ⟨rfl, rfl, behind⟩ := entry.rows_cancel other (entries.rows_above _ _ _)
            (others.rows_above _ _ _) same
          obtain ⟨rfl, -, rfl⟩ := entries.rows_cancel others above moreAbove behind
          exact ⟨rfl, rfl, rfl⟩
end

theorem Entries.rows_injective {entries others : Entries Text} {ordered otherOrdered : Bool}
    (same : entries.rows 0 ordered = others.rows 0 otherOrdered) :
    entries = others ∧ ordered = otherOrdered := by
  have none : Above 0 [] := by
    intro row first
    cases first
  obtain ⟨rfl, rfl, -⟩ := entries.rows_cancel others none none
    (congrArg (· ++ ([] : List Row)) same)
  exact ⟨rfl, rfl⟩

theorem feedLines_rows {rows : List Row} (solid : ∀ row ∈ rows, Solid row.text) :
    feedLines (rows.flatMap (·.line ++ ['\n']) ++ ['\n']) = rows.map Row.line ++ [[], []] := by
  have areLines : ∀ line ∈ rows.map Row.line, '\n' ∉ line := by
    intro line member
    obtain ⟨row, isRow, rfl⟩ := List.mem_map.mp member
    exact (Row.line_isLine (solid row isRow)).oneLine
  have written := feedLines_written areLines ['\n']
  rw [List.flatMap_map] at written
  exact written

/-! The list. -/

def Entries.preorder (ordered : Bool) (entries : Entries (List Node)) : List Row :=
  (entries.map inlines).rows 0 ordered

theorem list_preorder (setting : Setting) (titleMode : Bool) {ordered : Bool}
    {entries : Entries (List Node)} (solid : ∀ row ∈ entries.preorder ordered, Solid row.text)
    (progress : Progress) :
    (list setting titleMode ordered (entries.items.map .listItem) progress).1 =
      (entries.preorder ordered).flatMap (·.line ++ ['\n']) ++ ['\n'] := by
  rw [list_written, entries.itemLines_eq setting titleMode solid, List.flatMap_map]
  rfl

/-- A nested list is written as its rows and one blank line, and lists that are written alike are
alike. -/
theorem list_roundTrip (setting : Setting) (titleMode ordered : Bool)
    (entries : Entries (List Node)) (progress : Progress)
    (solid : ∀ row ∈ entries.preorder ordered, Solid row.text) :
    (list setting titleMode ordered (entries.items.map .listItem) progress).1 =
        (entries.preorder ordered).flatMap (·.line ++ ['\n']) ++ ['\n'] ∧
      ∀ (other : Setting) (otherMode otherOrdered : Bool) (others : Entries (List Node))
        (otherProgress : Progress),
        (∀ row ∈ others.preorder otherOrdered, Solid row.text) →
        (list other otherMode otherOrdered (others.items.map .listItem) otherProgress).1 =
          (list setting titleMode ordered (entries.items.map .listItem) progress).1 →
        others.map inlines = entries.map inlines ∧ otherOrdered = ordered := by
  refine ⟨list_preorder setting titleMode solid progress, ?_⟩
  intro other otherMode otherOrdered others otherProgress otherSolid same
  rw [list_preorder setting titleMode solid, list_preorder other otherMode otherSolid] at same
  have lines := congrArg feedLines same
  rw [feedLines_rows otherSolid, feedLines_rows solid] at lines
  have rows := List.append_cancel_right lines
  exact Entries.rows_injective
    (List.map_injective_iff.mpr (fun _ _ => Row.line_injective) rows)

def groceries (innermost : List Node) : Entries (List Node) :=
  .cons (.parent [.text "Fruit"] true
      (.cons (.parent [.strong [.text "Apple"]] false (.last (.plain innermost)))
        (.last (.plain [.text "Pear"]))))
    (.last (.plain [.text "Bread"]))

theorem list_roundTrip_groceries :
    let entries := groceries [.text "red, or $2"]
    let others := groceries [.text "red, ", .text "or $2"]
    (∀ row ∈ entries.preorder false, Solid row.text) ∧
      (list {} false false (entries.items.map .listItem) {}).1 =
        "- Fruit\n  + *Apple*\n    - red, or \\$2\n  + Pear\n- Bread\n\n".toList ∧
      others.map inlines = entries.map inlines := by
  intro entries others
  have solid : ∀ row ∈ entries.preorder false, Solid row.text := by decide +kernel
  have otherSolid : ∀ row ∈ others.preorder false, Solid row.text := by decide +kernel
  obtain ⟨written, alike⟩ := list_roundTrip {} false false entries {} solid
  refine ⟨solid, ?_, ?_⟩
  · rw [written]
    decide +kernel
  · exact (alike {} false false others {} otherSolid (by decide +kernel)).1

end Compositor.Markup

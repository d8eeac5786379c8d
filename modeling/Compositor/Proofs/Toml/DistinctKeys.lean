import Compositor.Toml.Document
import Mathlib.Data.List.Nodup

/-! No table of a document has a key twice: a key is only added where there is none of that name,
and a change under a key leaves the others as they are. -/

namespace Compositor.Toml

def keys {α : Type} (entries : List (Text × α)) : List Text := entries.map Prod.fst

namespace Value

def isScalar : Value → Bool
  | .array _ => false
  | .table _ => false
  | _ => true

inductive Distinct : Value → Prop
  | scalar {value : Value} : value.isScalar = true → Distinct value
  | array {items : List Value} : (∀ item ∈ items, Distinct item) → Distinct (.array items)
  | table {entries : List (Text × Value)} : (keys entries).Nodup →
      (∀ entry ∈ entries, Distinct entry.2) → Distinct (.table entries)

theorem Distinct.entries {entries : List (Text × Value)} (distinct : Distinct (.table entries)) :
    (keys entries).Nodup ∧ ∀ entry ∈ entries, Distinct entry.2 := by
  cases distinct with
  | scalar isScalar => cases isScalar
  | table nodup all => exact ⟨nodup, all⟩

end Value

namespace Item

inductive Distinct : Item → Prop
  | value {value : Value} : value.Distinct → Distinct (.value value)
  | table {kind : TableKind} {entries : List (Text × Item)} : (keys entries).Nodup →
      (∀ entry ∈ entries, Distinct entry.2) → Distinct (.table kind entries)
  | tables {elements : List Item} : (∀ element ∈ elements, Distinct element) →
      Distinct (.tables elements)

theorem empty_distinct (kind : TableKind) : Distinct (.table kind []) := by
  refine .table List.nodup_nil ?_
  intro entry member
  cases member

theorem keys_entryValues (entries : List (Text × Item)) :
    keys (entryValues entries) = keys entries := by
  induction entries with
  | nil => rfl
  | cons entry entries ih => exact congrArg (entry.1 :: ·) ih

mutual
theorem toValue_distinct : ∀ {item : Item}, item.Distinct → item.toValue.Distinct
  | .value _, .value distinct => distinct
  | .table _ entries, .table nodup all => by
      refine .table ?_ (entryValues_distinct entries all)
      rwa [keys_entryValues]
  | .tables elements, .tables all => .array (toValues_distinct elements all)

theorem toValues_distinct (elements : List Item) (all : ∀ element ∈ elements, element.Distinct) :
    ∀ value ∈ toValues elements, value.Distinct := by
  cases elements with
  | nil =>
      intro value member
      cases member
  | cons element elements =>
      obtain ⟨first, rest⟩ := List.forall_mem_cons.mp all
      exact List.forall_mem_cons.mpr ⟨toValue_distinct first, toValues_distinct elements rest⟩

theorem entryValues_distinct (entries : List (Text × Item))
    (all : ∀ entry ∈ entries, entry.2.Distinct) :
    ∀ entry ∈ entryValues entries, entry.2.Distinct := by
  cases entries with
  | nil =>
      intro entry member
      cases member
  | cons entry entries =>
      obtain ⟨first, rest⟩ := List.forall_mem_cons.mp all
      exact List.forall_mem_cons.mpr ⟨toValue_distinct first, entryValues_distinct entries rest⟩
end

/-! Changes of tables. -/

def Keeps (change? : Item → Option Item) : Prop :=
  ∀ {item changed}, item.Distinct → change? item = some changed → changed.Distinct

variable {key : Text} {change? : Option Item → Option Item} {entries changed : List (Text × Item)}

theorem keys_change (found : change key change? entries = some changed) :
    keys changed = keys entries ∨ key ∉ keys entries ∧ keys changed = keys entries ++ [key] := by
  induction entries generalizing changed with
  | nil =>
      simp only [change, Option.map_eq_some_iff] at found
      obtain ⟨item, -, rfl⟩ := found
      exact .inr ⟨List.not_mem_nil, rfl⟩
  | cons entry entries ih =>
      obtain ⟨other, item⟩ := entry
      rw [change] at found
      split at found
      next same =>
        simp only [Option.map_eq_some_iff] at found
        obtain ⟨item, -, rfl⟩ := found
        exact .inl rfl
      next different =>
        simp only [Option.map_eq_some_iff] at found
        obtain ⟨rest, found, rfl⟩ := found
        rcases ih found with same | ⟨absent, added⟩
        · exact .inl (congrArg (other :: ·) same)
        · refine .inr ⟨?_, congrArg (other :: ·) added⟩
          rw [keys, List.map_cons, List.mem_cons, not_or]
          exact ⟨Ne.symm different, absent⟩

theorem change_distinct
    (keeps : ∀ {found item}, (∀ old ∈ found, old.Distinct) → change? found = some item →
      item.Distinct)
    (nodup : (keys entries).Nodup) (all : ∀ entry ∈ entries, entry.2.Distinct)
    (found : change key change? entries = some changed) :
    (keys changed).Nodup ∧ ∀ entry ∈ changed, entry.2.Distinct := by
  constructor
  · rcases keys_change found with same | ⟨absent, added⟩
    · rwa [same]
    · rw [added]
      exact nodup.append (List.nodup_singleton key) (by simpa using absent)
  · clear nodup
    induction entries generalizing changed with
    | nil =>
        simp only [change, Option.map_eq_some_iff] at found
        obtain ⟨item, made, rfl⟩ := found
        have itemDistinct := keeps (by simp) made
        simpa using itemDistinct
    | cons entry entries ih =>
        obtain ⟨other, item⟩ := entry
        obtain ⟨first, rest⟩ := List.forall_mem_cons.mp all
        rw [change] at found
        split at found
        next same =>
          simp only [Option.map_eq_some_iff] at found
          obtain ⟨item, made, rfl⟩ := found
          exact List.forall_mem_cons.mpr ⟨keeps (by simpa using first) made, rest⟩
        next different =>
          simp only [Option.map_eq_some_iff] at found
          obtain ⟨more, found, rfl⟩ := found
          exact List.forall_mem_cons.mpr ⟨first, ih rest found⟩

theorem table_distinct {kind : TableKind} {table : Item}
    (keeps : ∀ {found item}, (∀ old ∈ found, old.Distinct) → change? found = some item →
      item.Distinct)
    (distinct : Distinct (.table kind entries))
    (found : (change key change? entries).map (.table kind) = some table) : table.Distinct := by
  simp only [Option.map_eq_some_iff] at found
  obtain ⟨changed, found, rfl⟩ := found
  cases distinct with
  | table nodup all =>
      have both := change_distinct keeps nodup all found
      exact .table both.1 both.2

theorem changeLast_distinct {change? : Item → Option Item} (keeps : Keeps change?)
    {elements changed : List Item} (all : ∀ element ∈ elements, element.Distinct)
    (found : changeLast change? elements = some changed) :
    ∀ element ∈ changed, element.Distinct := by
  fun_induction changeLast change? elements generalizing changed with
  | case1 => cases found
  | case2 item =>
      simp only [Option.map_eq_some_iff] at found
      obtain ⟨last, made, rfl⟩ := found
      have lastDistinct := keeps (all item (.head _)) made
      simpa using lastDistinct
  | case3 item items notLast ih =>
      obtain ⟨first, rest⟩ := List.forall_mem_cons.mp all
      simp only [Option.map_eq_some_iff] at found
      obtain ⟨more, found, rfl⟩ := found
      exact List.forall_mem_cons.mpr ⟨first, ih rest found⟩

theorem changeAt_distinct (dotted : Bool) {change? : Item → Option Item} (keeps : Keeps change?)
    (path : List Text) : Keeps (changeAt dotted change? path) := by
  induction path with
  | nil =>
      intro item changed distinct found
      exact keeps distinct found
  | cons key path ih =>
      intro item changed distinct found
      cases item with
      | value _ => cases found
      | tables _ => cases found
      | table kind entries =>
          refine table_distinct ?_ distinct found
          intro old item oldDistinct made
          rcases old with _ | (value | ⟨inner, entries⟩ | elements)
          · exact ih (empty_distinct _) made
          · cases made
          · simp only at made
            split at made
            · cases made
            · exact ih (oldDistinct _ rfl) made
          · simp only [Option.map_eq_some_iff] at made
            obtain ⟨last, made, rfl⟩ := made
            cases oldDistinct _ rfl with
            | tables all => exact .tables (changeLast_distinct ih all made)

theorem addKey_distinct (dotted : Bool) (key : Text) {value : Item} (distinct : value.Distinct) :
    Keeps (addKey dotted key value) := by
  intro item changed table found
  cases item with
  | value _ => cases found
  | tables _ => cases found
  | table kind entries =>
      rw [addKey] at found
      split at found
      next =>
        refine table_distinct ?_ table found
        intro old item _ made
        split at made
        · cases made
          exact distinct
        · cases made
      next => cases found

theorem addValue_distinct (path : List Text) (key : Text) {value : Item}
    (distinct : value.Distinct) : Keeps (addValue path key value) :=
  changeAt_distinct true (addKey_distinct _ key distinct) path

theorem openTable_distinct (path : List Text) (key : Text) : Keeps (openTable path key) := by
  apply changeAt_distinct
  intro item changed table found
  cases item with
  | value _ => cases found
  | tables _ => cases found
  | table kind entries =>
      refine table_distinct ?_ table found
      intro old item oldDistinct made
      split at made
      next =>
        cases made
        exact empty_distinct _
      next =>
        cases made
        cases oldDistinct _ rfl with
        | table nodup all => exact .table nodup all
      next => cases made

theorem openElement_distinct (path : List Text) (key : Text) : Keeps (openElement path key) := by
  apply changeAt_distinct
  intro item changed table found
  cases item with
  | value _ => cases found
  | tables _ => cases found
  | table kind entries =>
      refine table_distinct ?_ table found
      intro old item oldDistinct made
      split at made
      next =>
        cases made
        exact .tables (by simpa using empty_distinct _)
      next elements =>
        cases made
        cases oldDistinct _ rfl with
        | tables all =>
            refine .tables (List.forall_mem_append.mpr ⟨all, ?_⟩)
            simpa using empty_distinct _
      next => cases made

end Item

/-! Reading. -/

theorem wordValue?_isScalar {word : Text} {value : Value} (found : wordValue? word = some value) :
    value.isScalar = true := by
  unfold wordValue? at found
  split at found
  next => cases found; rfl
  next =>
    split at found
    next => cases found; rfl
    next => split at found <;> cases found <;> rfl

theorem readWord?_isScalar {text rest : Text} {value : Value}
    (found : readWord? text = some (value, rest)) : value.isScalar = true := by
  rw [readWord?] at found
  split at found <;> simp only [Option.map_eq_some_iff, Prod.mk.injEq] at found
  all_goals
    obtain ⟨word, found, rfl, -⟩ := found
    exact wordValue?_isScalar found

structure ReadsDistinct (fuel : Nat) : Prop where
  value {depth text value rest} : readValue? depth fuel text = some (value, rest) → value.Distinct
  items {depth text items rest} : readItems? depth fuel text = some (items, rest) →
    ∀ item ∈ items, item.Distinct
  entries {depth first table text changed rest} : Item.Distinct table →
    readEntries? depth fuel first table text = some (changed, rest) → changed.Distinct
  entry {depth text place value rest} : readEntry? depth fuel text = some (place, value, rest) →
    value.Distinct

section
variable {fuel depth : Nat} {text rest : Text}

theorem readValue?_distinct (shorter : ReadsDistinct fuel) {value : Value}
    (found : readValue? depth (fuel + 1) text = some (value, rest)) : value.Distinct := by
  cases text with
  | nil =>
      unfold readValue? at found
      cases found
  | cons character text =>
      unfold readValue? at found
      split at found
      next =>
        simp only [Option.map_eq_some_iff, Prod.mk.injEq] at found
        obtain ⟨content, -, rfl, -⟩ := found
        exact .scalar rfl
      next =>
        split at found
        next =>
          cases depth with
          | zero => cases found
          | succ depth =>
              simp only [Option.bind_eq_bind, Option.bind_eq_some_iff, Option.some.injEq,
                Prod.mk.injEq] at found
              obtain ⟨⟨items, behind⟩, read, rfl, -⟩ := found
              exact .array (shorter.items read)
        next =>
          split at found
          next =>
            cases depth with
            | zero => cases found
            | succ depth =>
                simp only [Option.bind_eq_bind, Option.bind_eq_some_iff, Option.some.injEq,
                  Prod.mk.injEq] at found
                obtain ⟨⟨table, behind⟩, read, rfl, -⟩ := found
                exact Item.toValue_distinct (shorter.entries (Item.empty_distinct _) read)
          next => exact .scalar (readWord?_isScalar found)

theorem readItems?_distinct (shorter : ReadsDistinct fuel) {items : List Value}
    (found : readItems? depth (fuel + 1) text = some (items, rest)) :
    ∀ item ∈ items, item.Distinct := by
  simp only [readItems?, Option.bind_eq_bind, Option.bind_eq_some_iff] at found
  obtain ⟨start, -, found⟩ := found
  split at found
  next =>
    cases found
    intro item member
    cases member
  next =>
    simp only [Option.bind_eq_some_iff, Prod.exists] at found
    obtain ⟨item, behind, first, closing, -, found⟩ := found
    have itemDistinct := shorter.value first
    split at found
    next =>
      simp only [Option.bind_eq_some_iff, Prod.exists, Option.some.injEq, Prod.mk.injEq] at found
      obtain ⟨items, behind, more, rfl, -⟩ := found
      exact List.forall_mem_cons.mpr ⟨itemDistinct, shorter.items more⟩
    next =>
      cases found
      simpa using itemDistinct
    next => cases found

theorem readEntries?_distinct (shorter : ReadsDistinct fuel) {first : Bool} {table changed : Item}
    (distinct : table.Distinct)
    (found : readEntries? depth (fuel + 1) first table text = some (changed, rest)) :
    changed.Distinct := by
  simp only [readEntries?] at found
  split at found
  next =>
    cases found
    exact distinct
  next =>
    simp only [Option.bind_eq_bind, Option.bind_eq_some_iff, Prod.exists] at found
    obtain ⟨path, key, value, behind, read, more, added, found⟩ := found
    have valueDistinct := shorter.entry read
    have moreDistinct := Item.addValue_distinct path key (.value valueDistinct) distinct added
    split at found
    next => exact shorter.entries moreDistinct found
    next =>
      cases found
      exact moreDistinct
    next => cases found

theorem readEntry?_distinct (shorter : ReadsDistinct fuel) {place : List Text × Text}
    {value : Value} (found : readEntry? depth (fuel + 1) text = some (place, value, rest)) :
    value.Distinct := by
  simp only [Option.bind_eq_bind, Option.bind_eq_some_iff, Prod.exists, readEntry?] at found
  obtain ⟨parts, behind, -, found⟩ := found
  split at found
  next =>
    simp only [Option.bind_eq_some_iff, Prod.exists, Option.some.injEq, Prod.mk.injEq] at found
    obtain ⟨read, more, found, rfl, rfl, rfl⟩ := found
    exact shorter.value found
  next => cases found

end

theorem reads_distinct (fuel : Nat) : ReadsDistinct fuel := by
  induction fuel with
  | zero =>
      constructor
      · intro depth text value rest found
        simp only [readValue?] at found
        cases found
      · intro depth text items rest found
        simp only [readItems?] at found
        cases found
      · intro depth first table text changed rest _ found
        simp only [readEntries?] at found
        cases found
      · intro depth text place value rest found
        unfold readEntry? at found
        cases found
  | succ fuel shorter =>
      exact ⟨readValue?_distinct shorter, readItems?_distinct shorter,
        readEntries?_distinct shorter, readEntry?_distinct shorter⟩

theorem readHeader?_distinct {progress next : Progress} {text rest : Text}
    (distinct : progress.root.Distinct) (found : readHeader? progress text = some (next, rest)) :
    next.root.Distinct := by
  simp only [readHeader?, Option.bind_eq_bind, Option.bind_eq_some_iff, Prod.exists,
    Option.some.injEq, Prod.mk.injEq] at found
  obtain ⟨parts, behind, -, closing, -, root, opened, rfl, -⟩ := found
  split at opened
  next => exact Item.openElement_distinct _ _ distinct opened
  next => exact Item.openTable_distinct _ _ distinct opened

theorem readLine?_distinct {progress next : Progress} {text rest : Text}
    (distinct : progress.root.Distinct) (found : readLine? progress text = some (next, rest)) :
    next.root.Distinct := by
  simp only [readLine?, Option.bind_eq_bind, Option.bind_eq_some_iff, Prod.exists,
    Option.some.injEq, Prod.mk.injEq] at found
  obtain ⟨path, key, value, behind, read, root, added, rfl, -⟩ := found
  have valueDistinct := (reads_distinct _).entry read
  exact Item.changeAt_distinct false (Item.addValue_distinct path key (.value valueDistinct)) _
    distinct added

theorem readLines?_distinct {fuel : Nat} {progress : Progress} {text : Text} {root : Item}
    (distinct : progress.root.Distinct) (found : readLines? fuel progress text = some root) :
    root.Distinct := by
  induction fuel generalizing progress text with
  | zero => cases found
  | succ fuel ih =>
      simp only [readLines?, Option.bind_eq_bind, Option.bind_eq_some_iff] at found
      obtain ⟨start, -, found⟩ := found
      split at found
      next =>
        cases found
        exact distinct
      next character rest =>
        split at found
        all_goals
          simp only [Option.bind_eq_some_iff, Prod.exists] at found
          obtain ⟨next, behind, read, closing, -, found⟩ := found
        · have nextDistinct := readHeader?_distinct distinct read
          split at found
          next => exact ih nextDistinct found
          next => cases found
        · have nextDistinct := readLine?_distinct distinct read
          split at found
          next => exact ih nextDistinct found
          next => cases found

theorem read?_distinct {text : Text} {value : Value} (found : read? text = some value) :
    value.Distinct := by
  simp only [read?, Option.map_eq_some_iff] at found
  obtain ⟨root, found, rfl⟩ := found
  exact Item.toValue_distinct (readLines?_distinct (Item.empty_distinct _) found)

end Compositor.Toml

import Compositor.Proofs.Yaml.Fields
import Mathlib.Data.List.Pairwise

/-! Mappings that change by one key. What is looked up under a name depends on the entry with this
name alone: not on the entries of other keys, and not on the order of the entries. -/

namespace Compositor.Yaml

variable {entries others : List (Value × Value)} {key : Value} {name : Text}

def remove (key : Value) (entries : List (Value × Value)) : List (Value × Value) :=
  entries.filter fun entry => ! Value.same key entry.1

def DistinctKeys (entries : List (Value × Value)) : Prop :=
  entries.Pairwise fun first second => Value.same first.1 second.1 = false

theorem isKey_iff : key.isKey name = true ↔ key = .string name := by
  cases key <;> simp [Value.isKey]

theorem same_string_left (name : Text) (key : Value) :
    Value.same (.string name) key = key.isKey name := by
  cases key with
  | string text => rw [same_string, Value.isKey, Bool.beq_comm]
  | _ => simp [Value.same, Value.isKey]

theorem same_string_right {other : Value} (isName : other.isKey name = true) :
    Value.same key other = key.isKey name := by
  obtain rfl := isKey_iff.mp isName
  cases key with
  | string text => rw [same_string, Value.isKey]
  | _ => simp [Value.same, Value.isKey]

/-! One key is set or taken out. -/

section Other

variable (other : key ≠ .string name)
include other

theorem same_of_other {entry : Value × Value} (isName : entry.1.isKey name = true) :
    Value.same key entry.1 = false := by
  rw [same_string_right isName, Bool.eq_false_iff]
  exact mt isKey_iff.mp other

theorem find?_insert_other (value : Value) (entries : List (Value × Value)) :
    (insert key value entries).find? (·.1.isKey name) = entries.find? (·.1.isKey name) := by
  have notName : key.isKey name = false := by simpa using mt isKey_iff.mp other
  induction entries with
  | nil => simp only [insert, List.find?_cons, notName]
  | cons entry entries ih =>
      rw [insert]
      cases isName : entry.1.isKey name with
      | true =>
          rw [same_of_other other isName]
          simp only [Bool.false_eq_true, if_false, List.find?_cons, isName]
      | false =>
          split
          next => simp only [List.find?_cons, isName]
          next => simp only [List.find?_cons, isName, ih]

theorem find?_remove_other (entries : List (Value × Value)) :
    (remove key entries).find? (·.1.isKey name) = entries.find? (·.1.isKey name) := by
  rw [remove, List.find?_filter]
  congr 1
  funext entry
  by_cases isName : entry.1.isKey name = true
  · simp [isName, same_of_other other isName]
  · simp [isName]

theorem lookup?_insert_other (value : Value) (entries : List (Value × Value)) :
    lookup? (insert key value entries) name = lookup? entries name := by
  rw [lookup?, lookup?, find?_insert_other other]

theorem lookup?_remove_other (entries : List (Value × Value)) :
    lookup? (remove key entries) name = lookup? entries name := by
  rw [lookup?, lookup?, find?_remove_other other]

end Other

theorem found_insert (name : Text) (value : Value) (entries : List (Value × Value)) :
    Found (insert (.string name) value entries) name value := by
  have first : ((insert (.string name) value entries).find? (·.1.isKey name)).map Prod.snd =
      some value := by
    induction entries with
    | nil => simp [insert, Value.isKey]
    | cons entry entries ih =>
        rw [insert, same_string_left]
        cases isName : entry.1.isKey name with
        | true => simp [isName]
        | false => simpa [isName] using ih
  rw [Found, lookup?, first]

theorem lookup?_remove (name : Text) (entries : List (Value × Value)) :
    lookup? (remove (.string name) entries) name = none := by
  have none : (remove (.string name) entries).find? (·.1.isKey name) = none := by
    rw [List.find?_eq_none]
    intro entry member
    have left := (List.mem_filter.mp member).2
    rw [same_string_left] at left
    simpa using left
  rw [lookup?, none]
  rfl

/-! The entries are reordered. -/

def NamedOnce (name : Text) (entries : List (Value × Value)) : Prop :=
  entries.Pairwise fun first second =>
    ¬ (first.1.isKey name = true ∧ second.1.isKey name = true)

theorem DistinctKeys.namedOnce (distinct : DistinctKeys entries) (name : Text) :
    NamedOnce name entries := by
  refine distinct.imp ?_
  rintro first second apart ⟨isName, isNameToo⟩
  rw [same_string_right isNameToo, isName] at apart
  cases apart

theorem NamedOnce.find?_eq_some_iff (once : NamedOnce name entries) {entry : Value × Value} :
    entries.find? (·.1.isKey name) = some entry ↔
      entry ∈ entries ∧ entry.1.isKey name = true := by
  constructor
  · intro found
    exact ⟨List.mem_of_find?_eq_some found, by simpa using List.find?_some found⟩
  · rintro ⟨member, isName⟩
    induction entries with
    | nil => cases member
    | cons first entries ih =>
        obtain ⟨apart, once⟩ := List.pairwise_cons.mp once
        obtain rfl | later := List.mem_cons.mp member
        · simp only [List.find?_cons, isName]
        · have notFirst : first.1.isKey name = false := by
            rw [Bool.eq_false_iff]
            exact fun isFirst => apart entry later ⟨isFirst, isName⟩
          simpa only [List.find?_cons, notFirst] using ih once later

theorem lookup?_perm (distinct : DistinctKeys entries) (reordered : entries.Perm others)
    (name : Text) : lookup? entries name = lookup? others name := by
  have once := distinct.namedOnce name
  have onceToo : NamedOnce name others :=
    (reordered.pairwise_iff fun apart => mt And.symm apart).mp once
  have same : entries.find? (·.1.isKey name) = others.find? (·.1.isKey name) := by
    ext entry
    rw [once.find?_eq_some_iff, onceToo.find?_eq_some_iff, reordered.mem_iff]
  rw [lookup?, lookup?, same]

end Compositor.Yaml

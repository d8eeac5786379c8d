import Compositor.Yaml.Scalar
import Mathlib.Data.List.Nodup

/-! Mappings whose keys are names. What is looked up under a name is the value that stands there,
if the names are distinct and the value is not null. -/

namespace Compositor.Yaml

def named (fields : List (Text × Value)) : List (Value × Value) :=
  fields.map fun field => (.string field.1, field.2)

/-- What is found under the name is the value; null counts as nothing. -/
def Found (entries : List (Value × Value)) (name : Text) (value : Value) : Prop :=
  lookup? entries name = (some value).filter (! ·.isNull)

def Holds (entries : List (Value × Value)) (fields : List (Text × Value)) : Prop :=
  ∀ field ∈ fields, Found entries field.1 field.2

theorem find?_named {fields : List (Text × Value)} (distinct : (fields.map Prod.fst).Nodup)
    {field : Text × Value} (member : field ∈ fields) :
    (named fields).find? (·.1.isKey field.1) = some (.string field.1, field.2) := by
  induction fields with
  | nil => cases member
  | cons first fields ih =>
      rw [List.map_cons, List.nodup_cons] at distinct
      rw [named, List.map_cons]
      obtain rfl | later := List.mem_cons.mp member
      · rw [List.find?_cons_of_pos (by simp [Value.isKey])]
      · have different : first.1 ≠ field.1 := by
          intro same
          exact distinct.1 (same ▸ List.mem_map_of_mem later)
        rw [List.find?_cons_of_neg (by simpa [Value.isKey] using different)]
        exact ih distinct.2 later

theorem named_holds {fields : List (Text × Value)} (distinct : (fields.map Prod.fst).Nodup) :
    Holds (named fields) fields := by
  intro field member
  rw [Found, lookup?, find?_named distinct member]
  rfl

/-- A value as it can be read from a text: no mapping in it has a key twice, and every integer fits
its 64 bits. -/
inductive Value.WellFormed : Value → Prop
  | null : WellFormed .null
  | bool (flag : Bool) : WellFormed (.bool flag)
  | int {number : Int} (fits : isIntegerValue number = true) : WellFormed (.int number)
  | float (number : Binary64) : WellFormed (.float number)
  | string (text : Text) : WellFormed (.string text)
  | sequence {items : List Value} (each : ∀ item ∈ items, WellFormed item) :
      WellFormed (.sequence items)
  | mapping {entries : List (Value × Value)}
      (distinct : entries.Pairwise fun first second => same first.1 second.1 = false)
      (keys : ∀ entry ∈ entries, WellFormed entry.1)
      (values : ∀ entry ∈ entries, WellFormed entry.2) : WellFormed (.mapping entries)
  | tagged (tag : Text) {value : Value} (inner : WellFormed value) : WellFormed (.tagged tag value)

theorem ofNat_wellFormed {number : Nat} (fits : number < UInt64.size) :
    (Value.int (.ofNat number)).WellFormed := by
  refine .int ?_
  have lowest : Int64.minValue.toInt ≤ 0 := by decide
  simp only [isIntegerValue, Int.ofNat_eq_natCast, Bool.and_eq_true, decide_eq_true_eq]
  omega

theorem same_string (name other : Text) :
    Value.same (.string name) (.string other) = (name == other) := by
  rw [Value.same]

theorem named_wellFormed {fields : List (Text × Value)} (distinct : (fields.map Prod.fst).Nodup)
    (values : ∀ field ∈ fields, field.2.WellFormed) :
    (Value.mapping (named fields)).WellFormed := by
  refine .mapping ?_ ?_ ?_
  · rw [List.nodup_iff_pairwise_ne, List.pairwise_map] at distinct
    rw [named, List.pairwise_map]
    refine distinct.imp ?_
    intro first second different
    rw [same_string, beq_eq_false_iff_ne]
    exact different
  · intro entry member
    obtain ⟨field, _, rfl⟩ := List.mem_map.mp member
    exact .string field.1
  · intro entry member
    obtain ⟨field, isField, rfl⟩ := List.mem_map.mp member
    exact values field isField

end Compositor.Yaml

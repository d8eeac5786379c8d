import Compositor.Proofs.Toml.DistinctKeys
import Compositor.Settings.Value
import Mathlib.Data.List.Induction

/-! Values laid over each other, name by name. What stands under a name depends on what stood there
before and on what is laid there, and on nothing else. -/

namespace Compositor.Settings

open Toml (keys)

namespace Value

variable {name other : Text} {entries : List (Text × Value)}

theorem lookup_entry (key : Text) (value : Value) (entries : List (Text × Value)) :
    ((key, value) :: entries).lookup name =
      if name = key then some value else entries.lookup name := by
  by_cases same : name = key
  · subst same
    rw [List.lookup_cons_self, if_pos rfl]
  · have other : (name == key) = false := beq_eq_false_iff_ne.mpr same
    rw [List.lookup_cons, other, if_neg same]

theorem lookup_changeEntry (change : Option Value → Value) :
    (changeEntry name change entries).lookup other =
      if other = name then some (change (entries.lookup other)) else entries.lookup other := by
  induction entries with
  | nil => exact lookup_entry name _ []
  | cons entry entries ih =>
      obtain ⟨key, value⟩ := entry
      rw [changeEntry]
      by_cases found : key = name
      · subst found
        rw [if_pos rfl, lookup_entry, lookup_entry]
        by_cases same : other = key
        · rw [if_pos same, if_pos same, if_pos same]
        · rw [if_neg same, if_neg same, if_neg same]
      · rw [if_neg found, lookup_entry, lookup_entry, ih]
        by_cases same : other = key
        · rw [if_pos same, if_pos same, if_neg fun equal => found (same.symm.trans equal)]
        · rw [if_neg same, if_neg same]

/-- A value over what stands under its name: a table is laid over that, all else takes its place. -/
def overlay : (value : Value) → (found : Option Value) → Value
  | .table incoming, found => setAll incoming (found.getD (.table []))
  | value, _ => value

def laid (upper found : Option Value) : Option Value :=
  match upper with
  | some value => some (value.overlay found)
  | none => found

theorem set_eq (name : Text) (value base : Value) :
    set name value base = .table (changeEntry (lowerCase name) value.overlay base.entries) := by
  cases value with
  | table incoming => rw [set]; rfl
  | scalar origin content => rw [set]; rfl
  | list origin items => rw [set]; rfl

theorem lookUp?_table (entries : List (Text × Value)) :
    (table entries).lookUp? name = entries.lookup name := rfl

theorem lookUp?_set (name : Text) (value base : Value) :
    (set name value base).lookUp? other =
      if other = lowerCase name then some (value.overlay (base.lookUp? other))
      else base.lookUp? other := by
  rw [set_eq, lookUp?_table, lookup_changeEntry]
  rfl

theorem setAll_eq_foldl (incoming : List (Text × Value)) (base : Value) :
    setAll incoming base = incoming.foldl (fun base entry => set entry.1 entry.2 base) base := by
  induction incoming generalizing base with
  | nil => rw [setAll]; rfl
  | cons entry incoming ih =>
      obtain ⟨name, value⟩ := entry
      rw [setAll, ih]
      rfl

theorem lookup_eq_none (absent : name ∉ keys entries) : entries.lookup name = none := by
  rw [List.lookup_eq_none_iff]
  intro entry member
  rw [bne_iff_ne]
  rintro rfl
  exact absent (List.mem_map_of_mem member)

theorem lookUp?_foldl (step : Value → Text × Value → Value) (nodup : (keys entries).Nodup)
    (lays : ∀ entry ∈ entries, ∀ base, (step base entry).lookUp? name =
      if name = entry.1 then some (entry.2.overlay (base.lookUp? name)) else base.lookUp? name)
    (base : Value) :
    (entries.foldl step base).lookUp? name = laid (entries.lookup name) (base.lookUp? name) := by
  induction entries generalizing base with
  | nil => rfl
  | cons entry entries ih =>
      obtain ⟨absent, rest⟩ := List.nodup_cons.mp nodup
      obtain ⟨first, more⟩ := List.forall_mem_cons.mp lays
      rw [List.foldl_cons, ih rest more, first]
      obtain ⟨key, value⟩ := entry
      rw [lookup_entry]
      by_cases same : name = key
      · subst same
        rw [if_pos rfl, if_pos rfl, lookup_eq_none absent]
        rfl
      · rw [if_neg same, if_neg same]

theorem lookUp?_setAll (nodup : (keys entries).Nodup)
    (lower : ∀ entry ∈ entries, lowerCase entry.1 = entry.1) (base : Value) :
    (setAll entries base).lookUp? name = laid (entries.lookup name) (base.lookUp? name) := by
  rw [setAll_eq_foldl]
  refine lookUp?_foldl _ nodup ?_ base
  intro entry member base
  rw [lookUp?_set, lower entry member]

/-! Names that are read as keys. -/

theorem readSteps_eq_nil {fuel : Nat} {text : Text}
    (read : Key.readSteps (fuel + 1) text = .ok []) :
    text = [] := by
  cases text with
  | nil => rfl
  | cons character text =>
      unfold Key.readSteps at read
      cases first : Key.readStep (character :: text) with
      | error error =>
          rw [first] at read
          cases read
      | ok found =>
          rw [first] at read
          change (Key.readSteps fuel found.2 >>= fun steps => .ok (found.1 :: steps)) = _ at read
          cases behind : Key.readSteps fuel found.2 with
          | error error =>
              rw [behind] at read
              cases read
          | ok steps =>
              rw [behind] at read
              cases read

theorem ofText_first {text first : Text} (read : Key.ofText text = .ok ⟨first, []⟩) :
    first = text := by
  unfold Key.ofText at read
  extract_lets name at read
  split at read
  next => cases read
  next =>
    cases steps : Key.readSteps (text.length + 1) (text.dropWhile Key.isNameCharacter) with
    | error error =>
        rw [steps] at read
        cases read
    | ok found =>
        rw [steps] at read
        have same : Key.mk name found = Key.mk first [] := Except.ok.inj read
        rw [Key.mk.injEq] at same
        obtain ⟨rfl, rfl⟩ := same
        have whole := List.takeWhile_append_dropWhile (p := Key.isNameCharacter) (l := text)
        rwa [readSteps_eq_nil steps, List.append_nil] at whole

/-- Whether a text is read as a key with steps below a name. -/
def leadsBelow (name text : Text) : Bool :=
  match Key.ofText text with
  | .ok key => !key.steps.isEmpty && key.first == name
  | .error _ => false

theorem setKey_name (name : Text) (value base : Value) :
    setKey ⟨name, []⟩ value base = set name value base := by
  rw [setKey, setAt]

theorem setKey_steps (name : Text) (step : Step) (steps : List Step) (value base : Value) :
    setKey ⟨name, step :: steps⟩ value base =
      .table (changeEntry name
        (fun found => setAt value (step :: steps) (found.getD (.scalar none .nothing)))
        base.entries) := by
  rw [setKey, setAt]
  exact List.cons_ne_nil step steps

theorem lookUp?_setNamed {text : Text} (plain : Key.ofText name = .ok ⟨name, []⟩)
    (lower : lowerCase text = text) (apart : leadsBelow name text = false) (value base : Value) :
    (setNamed text value base).lookUp? name =
      if name = text then some (value.overlay (base.lookUp? name)) else base.lookUp? name := by
  rw [leadsBelow] at apart
  rw [setNamed]
  cases read : Key.ofText text with
  | error error =>
      dsimp only
      rw [lookUp?_set, lower]
  | ok key =>
      obtain ⟨first, steps⟩ := key
      cases steps with
      | nil =>
          obtain rfl := ofText_first read
          dsimp only
          rw [setKey_name, lookUp?_set, lower]
      | cons step steps =>
          rw [read] at apart
          have otherFirst : name ≠ first := by
            rintro rfl
            simp at apart
          have otherText : name ≠ text := by
            rintro rfl
            rw [plain] at read
            cases read
          dsimp only
          rw [setKey_steps, lookUp?_table, lookup_changeEntry, if_neg otherFirst, if_neg otherText]
          rfl

theorem lookUp?_layOver {layer : Value} (plain : Key.ofText name = .ok ⟨name, []⟩)
    (nodup : (keys layer.entries).Nodup)
    (lower : ∀ entry ∈ layer.entries, lowerCase entry.1 = entry.1)
    (apart : ∀ entry ∈ layer.entries, leadsBelow name entry.1 = false) (base : Value) :
    (layer.layOver base).lookUp? name = laid (layer.lookUp? name) (base.lookUp? name) := by
  refine lookUp?_foldl (fun base entry => setNamed entry.1 entry.2 base) nodup ?_ base
  intro entry member base
  exact lookUp?_setNamed plain (lower entry member) (apart entry member) entry.2 base

/-! Tables below tables. -/

def below? (part name : Text) (value : Value) : Option Value :=
  (value.lookUp? part).bind (lookUp? name)

theorem lookUp?_overlay (nodup : (keys entries).Nodup)
    (lower : ∀ entry ∈ entries, lowerCase entry.1 = entry.1) (found : Option Value) :
    ((table entries).overlay found).lookUp? name =
      laid (entries.lookup name) (found.bind (lookUp? name)) := by
  rw [overlay, lookUp?_setAll nodup lower]
  cases found with
  | none => rfl
  | some value => rfl

theorem setAll_table (incoming entries : List (Text × Value)) :
    ∃ after, setAll incoming (.table entries) = .table after := by
  induction incoming generalizing entries with
  | nil => exact ⟨entries, by rw [setAll]⟩
  | cons entry incoming ih =>
      rw [setAll, set_eq]
      exact ih _

/-! What can be told of a value that is no table of settings. -/

def seen : Value → Value
  | .table _ => .table []
  | value => value

/-- A value that takes the place of another one: a table without entries does not. -/
def solid? : Value → Option Value
  | .table [] => none
  | value => some value

theorem overlay_seen {value : Value} (solid : value.solid? = some value) (found : Option Value) :
    (value.overlay found).seen = value.seen := by
  cases value with
  | scalar origin content => rfl
  | list origin items => rfl
  | table entries =>
      cases entries with
      | nil => cases solid
      | cons entry entries =>
          rw [overlay, setAll, set_eq]
          obtain ⟨after, shape⟩ := setAll_table entries _
          rw [shape]
          rfl

theorem solid?_cases (value : Value) : value.solid? = some value ∨ value = .table [] := by
  rcases value with _ | _ | (_ | _)
  · exact .inl rfl
  · exact .inl rfl
  · exact .inr rfl
  · exact .inl rfl

theorem laid_empty (found : Option Value) :
    laid (some (.table [])) found = some (found.getD (.table [])) := by
  rw [laid, overlay, setAll]

theorem findSome?_empty {values : List (Option Value)}
    (none : values.findSome? (·.bind solid?) = none) {value : Value}
    (found : values.findSome? id = some value) : value = .table [] := by
  obtain ⟨listed, member, rfl⟩ := List.exists_of_findSome?_eq_some found
  have notSolid : value.solid? = Option.none := List.findSome?_eq_none_iff.mp none _ member
  rcases solid?_cases value with solid | empty
  · rw [notSolid] at solid
    cases solid
  · exact empty

/-- Of values laid over each other in turn, the last solid one counts, then the one below them all,
and then a table without entries. -/
theorem foldl_laid (values : List (Option Value)) (found : Option Value) :
    (values.foldl (fun found value => laid value found) found).map seen =
      (((values.reverse.findSome? (·.bind solid?)).or found).or
        (values.reverse.findSome? id)).map seen := by
  induction values using List.reverseRecOn with
  | nil => cases found <;> rfl
  | append_singleton values value ih =>
      rw [List.foldl_append, List.foldl_cons, List.foldl_nil, List.reverse_concat,
        List.findSome?_cons, List.findSome?_cons]
      generalize values.foldl (fun found value => laid value found) found = before at ih ⊢
      cases value with
      | none => exact ih
      | some value =>
          rcases solid?_cases value with solid | rfl
          · simp [laid, solid, overlay_seen solid]
          · -- An empty table leaves what is there, and counts where nothing else is.
            rw [laid_empty]
            change _ = (((values.reverse.findSome? (·.bind solid?)).or found).or
              (some (.table []))).map seen
            cases solidBefore : (values.reverse.findSome? (·.bind solid?)).or found with
            | some other =>
                rw [solidBefore] at ih
                cases before with
                | none => cases ih
                | some value => exact ih
            | none =>
                rw [solidBefore, Option.none_or] at ih
                rw [Option.or_eq_none_iff] at solidBefore
                cases lastBefore : values.reverse.findSome? id with
                | none =>
                    rw [lastBefore] at ih
                    cases before with
                    | none => rfl
                    | some value => cases ih
                | some other =>
                    obtain rfl := findSome?_empty solidBefore.1 lastBefore
                    rw [lastBefore] at ih
                    cases before with
                    | none => cases ih
                    | some value => exact ih

end Value

end Compositor.Settings

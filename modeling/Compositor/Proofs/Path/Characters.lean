import Compositor.Path.Relative
import Compositor.Proofs.Text.Splitting

/-! The characters of a path that was made from other paths. They come from those paths, apart from
the slashes and dots between and in the components. -/

namespace Compositor.Path

variable {path base target : Path} {character : Char}

theorem mem_join (member : character ∈ join base path) :
    character ∈ base ∨ character ∈ path ∨ character = '/' := by
  unfold join at member
  split at member
  · exact .inr (.inl member)
  · split at member <;> grind

theorem cut_mem_segments (path : Path) : (cut path).elim Cut.last id ∈ segments path := by
  unfold cut
  split
  next none => exact absurd none (Text.split_ne_nil _ path)
  next first rest whole =>
    rw [whole]
    split
    next => exact .head _
    next last before ending =>
      have isLast : last ∈ rest.reverse :=
        (List.dropWhile_sublist isIdle).subset (ending ▸ List.mem_cons_self)
      exact .tail _ (List.mem_reverse.mp isLast)

theorem fileName?_mem_segments {name : Text} (found : fileName? path = some name) :
    name ∈ segments path := by
  have isSegment := cut_mem_segments path
  unfold fileName? at found
  cases cutIs : cut path <;> rw [cutIs] at isSegment found <;> simp only at found
  all_goals
    split at found
    · cases found
    · obtain rfl := Option.some.inj found
      exact isSegment

theorem mem_fileName? {name : Text} (found : fileName? path = some name)
    (member : character ∈ name) : character ∈ path :=
  Text.mem_of_mem_split (fileName?_mem_segments found) member

/-! Components. -/

theorem ofSegment_text (segment : Text) : (Component.ofSegment segment).text = segment := by
  unfold Component.ofSegment
  split
  next parent => exact parent.symm
  next => rfl

theorem ofFirst_text (segment : Text) : (Component.ofFirst segment).text = segment := by
  unfold Component.ofFirst
  split
  next current => exact current.symm
  next => exact ofSegment_text segment

theorem mem_components {component : Component} (isComponent : component ∈ components path)
    (member : character ∈ component.text) : character ∈ path ∨ character = '/' := by
  unfold components at isComponent
  split at isComponent
  next => cases isComponent
  next first rest whole =>
    have segment (piece : Text) (isPiece : piece ∈ first :: rest) (inside : character ∈ piece) :
        character ∈ path ∨ character = '/' :=
      .inl (Text.mem_of_mem_split (whole ▸ isPiece) inside)
    have later (isLater : component ∈ (rest.filter (! isIdle ·)).map Component.ofSegment) :
        character ∈ path ∨ character = '/' := by
      obtain ⟨piece, isPiece, rfl⟩ := List.mem_map.mp isLater
      rw [ofSegment_text] at member
      exact segment piece (.tail _ (List.mem_filter.mp isPiece).1) member
    split at isComponent
    · rcases List.mem_cons.mp isComponent with rfl | isLater
      · exact .inr (List.mem_singleton.mp member)
      · exact later isLater
    · split at isComponent
      · exact later isComponent
      · rcases List.mem_cons.mp isComponent with rfl | isLater
        · rw [ofFirst_text] at member
          exact segment first (.head _) member
        · exact later isLater

theorem mem_foldl_join {components : List Component} {start : Path}
    (member : character ∈ components.foldl (fun path part => join path part.text) start) :
    character ∈ start ∨ (∃ component ∈ components, character ∈ component.text) ∨
      character = '/' := by
  induction components generalizing start with
  | nil => exact .inl member
  | cons component components ih =>
      rcases ih member with inside | ⟨later, isLater, inside⟩ | slash
      · rcases mem_join inside with early | first | slash
        · exact .inl early
        · exact .inr (.inl ⟨component, .head _, first⟩)
        · exact .inr (.inr slash)
      · exact .inr (.inl ⟨later, .tail _ isLater, inside⟩)
      · exact .inr (.inr slash)

theorem mem_ofComponents {components : List Component}
    (member : character ∈ ofComponents components) :
    (∃ component ∈ components, character ∈ component.text) ∨ character = '/' :=
  (mem_foldl_join member).resolve_left List.not_mem_nil

theorem mem_climb {common : Bool} {target base result : List Component} {component : Component}
    (found : climb common target base = some result) (member : component ∈ result) :
    component ∈ target ∨ component = .parent := by
  fun_induction climb common target base generalizing result with
  | case1 common target =>
      obtain rfl := Option.some.inj found
      exact .inl member
  | case2 common under base ih =>
      obtain ⟨rest, climbed, rfl⟩ := Option.map_eq_some_iff.mp found
      rcases List.mem_cons.mp member with rfl | later
      · exact .inr rfl
      · exact ih climbed later
  | case3 common first target under base same ih =>
      exact (ih found member).imp_left (.tail _)
  | case4 common first target under base other current ih =>
      obtain ⟨rest, climbed, rfl⟩ := Option.map_eq_some_iff.mp found
      rcases List.mem_cons.mp member with rfl | later
      · exact .inl (.head _)
      · exact (ih climbed later).imp_left (.tail _)
  | case5 => cases found
  | case6 common first target under base other notCurrent notParent =>
      obtain rfl := Option.some.inj found
      rcases List.mem_cons.mp member with rfl | later
      · exact .inr rfl
      · rcases List.mem_append.mp later with up | down
        · obtain ⟨_, _, rfl⟩ := List.mem_map.mp up
          exact .inr rfl
        · exact .inl down

theorem mem_difference? {result : Path} (found : difference? target base = some result)
    (member : character ∈ result) : character ∈ target ∨ character = '/' ∨ character = '.' := by
  unfold difference? at found
  split at found
  · obtain ⟨steps, climbed, rfl⟩ := Option.map_eq_some_iff.mp found
    rcases mem_ofComponents member with ⟨component, isStep, inside⟩ | slash
    · rcases mem_climb climbed isStep with isTarget | rfl
      · exact (mem_components isTarget inside).imp_right .inl
      · have dots : character ∈ ['.', '.'] := inside
        exact .inr (.inr (by simpa using dots))
    · exact .inr (.inl slash)
  · split at found
    · obtain rfl := Option.some.inj found
      exact .inl member
    · cases found

theorem mem_relativeTo (member : character ∈ relativeTo target base) :
    character ∈ target ∨ character = '/' ∨ character = '.' := by
  obtain ⟨original, inside, rfl⟩ := List.mem_map.mp member
  have origin : original ∈ target ∨ original = '/' ∨ original = '.' := by
    cases found : difference? target base with
    | none => exact .inl (by simpa [found] using inside)
    | some result => exact mem_difference? found (by simpa [found] using inside)
  by_cases backslash : original = '\\'
  · rw [if_pos backslash]
    exact .inr (.inl rfl)
  · rwa [if_neg backslash]

end Compositor.Path

import Compositor.Proofs.Path.BaseName

/-! A path whose extension is replaced. Directory and stem stay, so only the last component of the
path is another one. -/

namespace Compositor.Path

variable {path : Path} {name stem extension : Text}

/-- Paths that name the same, whatever slashes and dots they are written with. -/
def Same (first second : Path) : Prop := components first = components second

theorem Same.fileName? {other : Path} (same : Same path other) :
    fileName? path = fileName? other := by
  ext name
  rw [fileName?_iff_components, fileName?_iff_components, same]

theorem Same.extension? {other : Path} (same : Same path other) :
    extension? path = extension? other := by
  rw [Path.extension?, Path.extension?, same.fileName?]

structure IsExtension (extension : Text) : Prop where
  some : extension ≠ []
  noDot : '.' ∉ extension
  oneSegment : '/' ∉ extension

/-! Names. -/

theorem IsName.ne_nil (isName : IsName name) : name ≠ [] := by
  rintro rfl
  cases isName.busy

theorem stem_ne_nil (isName : IsName name) : (splitName name).1 ≠ [] := by
  unfold splitName
  dsimp only
  split
  next => exact isName.ne_nil
  next => exact isName.ne_nil
  next ending stem several whole => simpa using several

theorem mem_stem {character : Char} (member : character ∈ (splitName name).1) :
    character ∈ name := by
  unfold splitName at member
  dsimp only at member
  split at member
  next => exact member
  next => exact member
  next ending stem several whole =>
    have behind : character ∈ name.reverse.dropWhile (· != '.') :=
      whole ▸ .tail _ (List.mem_reverse.mp member)
    exact List.mem_reverse.mp ((List.dropWhile_sublist _).subset behind)

theorem splitName_append (notEmpty : stem ≠ []) (isExtension : IsExtension extension) :
    splitName (stem ++ '.' :: extension) = (stem, some extension) := by
  have reversed : (stem ++ '.' :: extension).reverse =
      extension.reverse ++ '.' :: stem.reverse := by simp
  have noDot : ∀ character ∈ extension.reverse, (character != '.') = true := by
    intro character member
    rw [bne_iff_ne]
    rintro rfl
    exact isExtension.noDot (List.mem_reverse.mp member)
  unfold splitName
  rw [reversed, List.takeWhile_append_of_pos noDot, List.dropWhile_append_of_pos noDot,
    List.takeWhile_cons_of_neg (by simp), List.dropWhile_cons_of_neg (by simp)]
  cases front : stem.reverse with
  | nil => exact absurd (List.reverse_eq_nil_iff.mp front) notEmpty
  | cons last before =>
      have whole : stem = (last :: before).reverse := by rw [← front, List.reverse_reverse]
      simp [whole]

def rename (name extension : Text) : Text := (splitName name).1 ++ '.' :: extension

theorem isName_rename (isName : IsName name) (isExtension : IsExtension extension) :
    IsName (rename name extension) := by
  obtain ⟨first, stem, stemIs⟩ := List.exists_cons_of_ne_nil (stem_ne_nil isName)
  obtain ⟨second, more, extensionIs⟩ := List.exists_cons_of_ne_nil isExtension.some
  constructor
  case busy => simp [isIdle, rename, stemIs]
  case notParent =>
    intro parent
    have lengths := congrArg List.length parent
    simp only [rename, stemIs, extensionIs, List.length_append, List.length_cons,
      List.length_nil] at lengths
    omega
  case oneSegment =>
    intro slash
    rcases List.mem_append.mp slash with inStem | inExtension
    · exact isName.oneSegment (mem_stem inStem)
    · exact isExtension.oneSegment (by simpa using inExtension)

/-! Paths. -/

theorem isAbsolute_iff_segments :
    isAbsolute path = true ↔ ∃ more ≠ [], segments path = [] :: more := by
  cases path with
  | nil => simp [isAbsolute, segments, Text.split]
  | cons character path =>
      by_cases slash : character = '/'
      · subst slash
        have split := segments_append [] path
        exact iff_of_true rfl ⟨segments path, Text.split_ne_nil _ path, split⟩
      · refine iff_of_false (by simp [isAbsolute, slash]) ?_
        rintro ⟨more, -, whole⟩
        have joined := Text.join_split '/' (character :: path)
        change Text.join ['/'] (segments (character :: path)) = _ at joined
        rw [whole] at joined
        cases more with
        | nil => cases joined
        | cons next more => exact slash (List.cons.inj joined).1.symm

theorem start_named (isName : IsName name) {idle : List Text}
    (whole : segments path = name :: idle) : start path = [] := by
  have relative : ¬ isAbsolute path = true := by
    rw [isAbsolute_iff_segments, whole]
    rintro ⟨more, -, same⟩
    exact isName.ne_nil (List.cons.inj same).1
  have notDot : name ≠ ['.'] := by
    rintro rfl
    cases isName.busy
  simp [start, relative, whole, notDot]

theorem start_congr {other : Path} {first : Text} {more others : List Text}
    (whole : segments path = first :: more) (otherWhole : segments other = first :: others)
    (several : more ≠ [] ∧ others ≠ []) : start path = start other := by
  have absolute : isAbsolute path = isAbsolute other := by
    rw [Bool.eq_iff_iff, isAbsolute_iff_segments, isAbsolute_iff_segments, whole, otherWhole]
    simp [several]
  rw [start, start, absolute, whole, otherWhole]
  rfl

section Named

variable (named : fileName? path = some name) (isExtension : IsExtension extension)
include named isExtension

theorem segments_withExtension :
    ∃ before idle, segments path = before ++ name :: idle ∧
      (∀ segment ∈ idle, isIdle segment = true) ∧
      segments (withExtension path extension) = before ++ [rename name extension] := by
  obtain ⟨isName, before, idle, whole, areIdle⟩ := fileName?_segments named
  have isRenamed := isName_rename isName isExtension
  refine ⟨before, idle, whole, areIdle, ?_⟩
  unfold withExtension
  rw [named, cut_named isName whole areIdle]
  cases before with
  | nil => exact segments_eq_self isRenamed.oneSegment
  | cons first before =>
      change segments (Text.join ['/'] (first :: (before.reverse.reverse ++ [_]))) = _
      rw [List.reverse_reverse]
      refine Text.split_join (by simp) ?_
      intro segment member
      change segment ∈ (first :: before) ++ [rename name extension] at member
      rcases List.mem_append.mp member with inPath | last
      · intro slash
        have isSegment : segment ∈ segments path := by
          rw [whole]
          exact List.mem_append_left _ inPath
        simpa using Text.not_mem_split isSegment '/' slash
      · obtain rfl := List.mem_singleton.mp last
        exact isRenamed.oneSegment

theorem fileName?_withExtension :
    fileName? (withExtension path extension) = some (rename name extension) := by
  obtain ⟨before, -, -, -, renamed⟩ := segments_withExtension named isExtension
  exact fileName?_eq_some (isName_rename (fileName?_segments named).1 isExtension) renamed (by simp)

theorem extension?_withExtension :
    Path.extension? (withExtension path extension) = some extension := by
  have notEmpty := stem_ne_nil (fileName?_segments named).1
  rw [Path.extension?, fileName?_withExtension named isExtension, Option.bind_some, rename,
    splitName_append notEmpty isExtension]

theorem stem?_withExtension : stem? (withExtension path extension) = stem? path := by
  have notEmpty := stem_ne_nil (fileName?_segments named).1
  rw [stem?, stem?, fileName?_withExtension named isExtension, named, Option.map_some, rename,
    splitName_append notEmpty isExtension, Option.map_some]

theorem parent?_withExtension : parent? (withExtension path extension) = parent? path := by
  have isName := (fileName?_segments named).1
  have isRenamed := isName_rename isName isExtension
  obtain ⟨before, idle, whole, areIdle, renamed⟩ := segments_withExtension named isExtension
  unfold parent?
  rw [cut_named isName whole areIdle, cut_named isRenamed renamed (by simp)]
  cases before with
  | nil => simp [isName.ne_nil, isRenamed.ne_nil]
  | cons first before => rfl

theorem components_withExtension :
    components (withExtension path extension) =
      (components path).dropLast ++ [.normal (rename name extension)] := by
  have isName := (fileName?_segments named).1
  have isRenamed := isName_rename isName isExtension
  obtain ⟨before, idle, whole, areIdle, renamed⟩ := segments_withExtension named isExtension
  have noStep : idle.filter (! isIdle ·) = [] := by simpa using areIdle
  have start : start (withExtension path extension) = start path := by
    cases before with
    | nil => rw [start_named isRenamed renamed, start_named isName whole]
    | cons first before => exact start_congr renamed whole (by simp)
  have last {name : Text} (isName : IsName name) : Component.ofSegment name = .normal name :=
    ofSegment_eq_normal_iff.mpr ⟨rfl, isName.notParent⟩
  rw [components_eq, components_eq, start]
  simp [steps, whole, renamed, noStep, isName.busy, isRenamed.busy, last isName, last isRenamed]

end Named

end Compositor.Path

import Compositor.Proofs.Path.Steps
import Mathlib.Data.List.TakeWhile

/-! The base name of a path: a segment that names something, behind which nothing else does. A base
name that is joined to a directory gives a path with that base name, and no other one gives it. -/

namespace Compositor.Path

variable {base path : Path} {name : Text}

structure IsName (name : Text) : Prop where
  busy : isIdle name = false
  notParent : name ≠ ['.', '.']
  oneSegment : '/' ∉ name

theorem IsName.relative (isName : IsName name) : isAbsolute name = false := by
  rw [isAbsolute, beq_eq_false_iff_ne]
  intro slash
  obtain ⟨rest, rfl⟩ := List.head?_eq_some_iff.mp slash
  exact isName.oneSegment (.head _)

def lastSegment (path : Path) : Text := (cut path).elim Cut.last id

theorem fileName?_eq_some_iff (path : Path) (name : Text) :
    fileName? path = some name ↔
      lastSegment path = name ∧ isIdle name = false ∧ name ≠ ['.', '.'] := by
  have same : fileName? path = if isIdle (lastSegment path) || lastSegment path == ['.', '.']
      then none else some (lastSegment path) := by
    unfold fileName? lastSegment
    cases cut path <;> rfl
  rw [same]
  split
  next unnamed =>
    simp only [Bool.or_eq_true, beq_iff_eq] at unnamed
    refine iff_of_false (by simp) ?_
    rintro ⟨rfl, busy, notParent⟩
    rcases unnamed with idle | parent
    · rw [busy] at idle
      cases idle
    · exact notParent parent
  next named =>
    simp only [Bool.or_eq_true, beq_iff_eq, not_or, Bool.not_eq_true] at named
    rw [Option.some.injEq]
    refine ⟨?_, And.left⟩
    rintro rfl
    exact ⟨rfl, named⟩

theorem segments_lastSegment (path : Path) :
    ∃ before idle, segments path = before ++ lastSegment path :: idle ∧
      ∀ segment ∈ idle, isIdle segment = true := by
  unfold lastSegment cut
  split
  next none => exact absurd none (Text.split_ne_nil _ path)
  next first rest whole =>
    split
    next ending =>
      have allIdle : ∀ segment ∈ rest, isIdle segment = true := by
        simpa using List.dropWhile_eq_nil_iff.mp ending
      exact ⟨[], rest, whole, allIdle⟩
    next last before ending =>
      refine ⟨first :: before.reverse, (rest.reverse.takeWhile isIdle).reverse, ?_, ?_⟩
      · have split := List.takeWhile_append_dropWhile (p := isIdle) (l := rest.reverse)
        rw [ending] at split
        have restIs := (List.reverse_eq_iff.mp split.symm).trans List.reverse_append
        rw [whole, List.cons_append, List.cons_inj_right]
        exact restIs.trans (by simp)
      · intro segment member
        exact List.mem_takeWhile_imp (List.mem_reverse.mp member)

theorem fileName?_segments (found : fileName? path = some name) :
    IsName name ∧ ∃ before idle, segments path = before ++ name :: idle ∧
      ∀ segment ∈ idle, isIdle segment = true := by
  have isSegment := fileName?_mem_segments found
  have oneSegment : '/' ∉ name := by
    intro slash
    simpa using Text.not_mem_split isSegment '/' slash
  obtain ⟨rfl, busy, notParent⟩ := (fileName?_eq_some_iff path name).mp found
  exact ⟨⟨busy, notParent, oneSegment⟩, segments_lastSegment path⟩

theorem cut_named (isName : IsName name) {before idle : List Text}
    (whole : segments path = before ++ name :: idle)
    (areIdle : ∀ segment ∈ idle, isIdle segment = true) :
    cut path = match before with
      | [] => .inr name
      | first :: before => .inl ⟨first, before.reverse, name⟩ := by
  have reversed : ∀ segment ∈ idle.reverse, isIdle segment = true :=
    fun segment member => areIdle segment (List.mem_reverse.mp member)
  cases before with
  | nil => simp only [cut, whole, List.nil_append, List.dropWhile_eq_nil_iff.mpr reversed]
  | cons first before =>
      have stops : (before ++ name :: idle).reverse.dropWhile isIdle = name :: before.reverse := by
        rw [List.reverse_append, List.reverse_cons, List.append_assoc,
          List.dropWhile_append_of_pos reversed, List.singleton_append,
          List.dropWhile_cons_of_neg (by simp [isName.busy])]
      simp only [cut, whole, List.cons_append, stops]

theorem fileName?_eq_some (isName : IsName name) {before idle : List Text}
    (ending : segments path = before ++ name :: idle)
    (areIdle : ∀ segment ∈ idle, isIdle segment = true) : fileName? path = some name := by
  refine (fileName?_eq_some_iff path name).mpr ⟨?_, isName.busy, isName.notParent⟩
  rw [lastSegment, cut_named isName ending areIdle]
  cases before <;> rfl

theorem ofSegment_eq_normal_iff {segment : Text} :
    Component.ofSegment segment = .normal name ↔ segment = name ∧ name ≠ ['.', '.'] := by
  unfold Component.ofSegment
  split
  next parent => simp [parent, eq_comm]
  next notParent =>
    rw [Component.normal.injEq]
    constructor
    · rintro rfl
      exact ⟨rfl, notParent⟩
    · exact And.left

theorem normal_notMem_start : Component.normal name ∉ start path := by
  unfold start
  split
  · simp
  · split <;> simp

/-- The base name of a path is its last component, if that is a name. -/
theorem fileName?_iff_components :
    fileName? path = some name ↔ (components path).getLast? = some (.normal name) := by
  rw [components_eq]
  constructor
  · intro found
    obtain ⟨isName, before, idle, whole, areIdle⟩ := fileName?_segments found
    have none : idle.filter (! isIdle ·) = [] := by simpa using areIdle
    have last : Component.ofSegment name = .normal name :=
      ofSegment_eq_normal_iff.mpr ⟨rfl, isName.notParent⟩
    simp [steps, whole, none, isName.busy, last]
  · intro last
    have ending : (steps path).getLast? = some (.normal name) := by
      rw [List.getLast?_append] at last
      cases ofSteps : (steps path).getLast? with
      | some component => simpa [ofSteps] using last
      | none =>
          rw [ofSteps, Option.none_or] at last
          exact absurd (List.mem_of_getLast? last) normal_notMem_start
    obtain ⟨front, shape⟩ := List.getLast?_eq_some_iff.mp ending
    obtain ⟨busyFront, busyLast, busy, -, lastSegment⟩ := List.map_eq_append_iff.mp shape
    obtain ⟨segment, rfl, isLast⟩ := List.map_eq_singleton_iff.mp lastSegment
    obtain ⟨rfl, notParent⟩ := ofSegment_eq_normal_iff.mp isLast
    obtain ⟨outer, inner, whole, -, innerBusy⟩ := List.filter_eq_append_iff.mp busy
    obtain ⟨skipped, idle, rfl, -, isBusy, areIdle⟩ := List.filter_eq_cons_iff.mp innerBusy
    rw [← List.append_assoc] at whole
    have isSegment : segment ∈ segments path := by simp [whole]
    have oneSegment : '/' ∉ segment := by
      intro slash
      simpa using Text.not_mem_split isSegment '/' slash
    exact fileName?_eq_some ⟨by simpa using isBusy, notParent, oneSegment⟩ whole
      (by simpa using areIdle)

theorem segments_join (relative : isAbsolute path = false) (base : Path) :
    ∃ before, segments (join base path) = before ++ segments path := by
  by_cases empty : base = []
  · exact ⟨[], by rw [empty, nil_join, List.nil_append]⟩
  · obtain ⟨front, -, joined⟩ := join_shape empty
    exact ⟨segments front, by rw [joined path relative, segments_append]⟩

theorem fileName?_join (named : fileName? path = some name) (base : Path) :
    fileName? (join base path) = some name := by
  by_cases absolute : isAbsolute path = true
  · rwa [join, if_pos absolute]
  · obtain ⟨isName, before, idle, segments, areIdle⟩ := fileName?_segments named
    obtain ⟨outer, joined⟩ := segments_join (Bool.eq_false_iff.mpr absolute) base
    rw [segments, ← List.append_assoc] at joined
    exact fileName?_eq_some isName joined areIdle

theorem IsName.fileName? (isName : IsName name) : fileName? name = some name :=
  @fileName?_eq_some name name isName [] [] (segments_eq_self isName.oneSegment) (by simp)

theorem trimSlashes_eq_self (noSlash : path.getLast? ≠ some '/') : trimSlashes path = path := by
  obtain rfl | ⟨front, last, rfl⟩ := List.eq_nil_or_concat path
  · rfl
  · have other : last ≠ '/' := by simpa using noSlash
    simp [trimSlashes, other]

theorem IsName.trimSlashes_join (isName : IsName name) (base : Path) :
    trimSlashes (join base name) = join base name := by
  have ending : ∃ front, join base name = front ++ name := by
    by_cases empty : base = []
    · exact ⟨[], by rw [empty, nil_join, List.nil_append]⟩
    · obtain ⟨front, -, joined⟩ := join_shape empty
      exact ⟨front ++ ['/'], by rw [joined name isName.relative, List.append_cons]⟩
  obtain ⟨front, joined⟩ := ending
  obtain rfl | ⟨start, last, rfl⟩ := List.eq_nil_or_concat name
  · cases isName.busy
  rw [List.concat_eq_append] at joined isName
  have notSlash : last ≠ '/' := by
    rintro rfl
    exact isName.oneSegment (List.mem_append_right _ (.head _))
  rw [List.concat_eq_append, joined]
  exact trimSlashes_eq_self (by simpa using notSlash)

theorem join_inj {other : Path} (relative : isAbsolute path = false)
    (otherRelative : isAbsolute other = false) :
    join base path = join base other ↔ path = other := by
  refine ⟨?_, fun same => by rw [same]⟩
  intro same
  by_cases empty : base = []
  · rwa [empty, nil_join, nil_join] at same
  · obtain ⟨front, -, joined⟩ := join_shape empty
    rw [joined path relative, joined other otherRelative] at same
    exact (List.cons.inj (List.append_cancel_left same)).2

end Compositor.Path

import Compositor.Proofs.Settings.Files

/-! Where each setting comes from when layers are loaded: its last override, else the last file that
sets it, else the built-in value. Settings do not depend on each other, and the order of a file and
an override does not count. -/

namespace Compositor.Settings

open Value (below? laid seen solid?)

/-! Overrides. -/

theorem valueIn?_setKey (base : Value) (setting other : Setting) (content : Scalar) :
    other.valueIn? (.setKey ⟨setting.part, [.child setting.name]⟩ (.scalar none content) base) =
      if setting.key = other.key then some (.scalar none content) else other.valueIn? base := by
  rw [Setting.valueIn?, below?, Value.setKey_steps, Value.lookUp?_table, Value.lookup_changeEntry]
  by_cases samePart : other.part = setting.part
  · rw [if_pos samePart, Option.bind_some, Value.setAt, Value.lookUp?_set, setting.name_lowerCase]
    by_cases sameName : other.name = setting.name
    · rw [if_pos sameName, if_pos (setting.key_eq_iff other |>.mpr ⟨samePart.symm, sameName.symm⟩)]
      rfl
    · rw [if_neg sameName, if_neg fun same => sameName (setting.key_eq_iff other |>.mp same).2.symm,
        Setting.valueIn?, below?]
      change ((base.lookUp? other.part).getD (.scalar none .nothing)).lookUp? other.name = _
      cases base.lookUp? other.part <;> rfl
  · rw [if_neg samePart, if_neg fun same => samePart (setting.key_eq_iff other |>.mp same).1.symm]
    rfl

theorem sectioned_setKey {base : Value} (sectioned : Sectioned base) (setting : Setting)
    (content : Scalar) :
    Sectioned (.setKey ⟨setting.part, [.child setting.name]⟩ (.scalar none content) base) := by
  intro other
  obtain ⟨entries, found⟩ := sectioned other
  rw [Value.setKey_steps, Value.lookUp?_table, Value.lookup_changeEntry]
  by_cases same : other.part = setting.part
  · rw [if_pos same, Value.setAt, Value.set_eq]
    exact ⟨_, rfl⟩
  · rw [if_neg same]
    exact ⟨entries, found⟩

namespace Layer

def isFile : Layer → Bool
  | .file _ _ => true
  | .override _ _ => false

def overriding? (setting : Setting) : Layer → Option Value
  | .file _ _ => none
  | .override key content => if key = setting.key then some (.scalar none content) else none

end Layer

theorem overrides_last {layers : List Layer}
    (known : ∀ layer ∈ layers, ∀ key content, layer = .override key content →
      ∃ setting : Setting, key = setting.key) :
    ∃ sets, overrides layers = .ok sets ∧ ∀ base, Sectioned base →
      let after := sets.foldl (fun base (key, value) => .setKey key (.scalar none value) base) base
      Sectioned after ∧ ∀ setting : Setting, setting.valueIn? after =
        (layers.reverse.findSome? (Layer.overriding? setting)).or (setting.valueIn? base) := by
  induction layers with
  | nil => exact ⟨[], rfl, fun base sectioned => ⟨sectioned, fun _ => rfl⟩⟩
  | cons layer layers ih =>
      obtain ⟨first, rest⟩ := List.forall_mem_cons.mp known
      obtain ⟨sets, inOrder, last⟩ := ih rest
      cases layer with
      | file path required =>
          refine ⟨sets, inOrder, fun base sectioned => ?_⟩
          obtain ⟨after, values⟩ := last base sectioned
          refine ⟨after, fun setting => ?_⟩
          rw [values setting, List.reverse_cons, List.findSome?_append]
          simp [Layer.overriding?]
      | override key content =>
          obtain ⟨named, rfl⟩ := first key content rfl
          let set : Key × Scalar := (⟨named.part, [.child named.name]⟩, content)
          refine ⟨set :: sets, ?_, fun base sectioned => ?_⟩
          · rw [overrides, named.key_ofText]
            dsimp only
            rw [inOrder]
            rfl
          · obtain ⟨after, values⟩ := last _ (sectioned_setKey sectioned named content)
            refine ⟨after, fun setting => ?_⟩
            rw [List.foldl_cons, values setting, valueIn?_setKey, List.reverse_cons,
              List.findSome?_append, List.findSome?_singleton, Layer.overriding?]
            by_cases same : named.key = setting.key
            · rw [if_pos same, if_pos same, Option.or_assoc]
              rfl
            · rw [if_neg same, if_neg same, Option.or_none]

section
variable (machine : Machine) (tree : FileTree)

namespace Layer

def value? (setting : Setting) : Layer → Option Value
  | .file path required =>
      (fileAt machine tree path required).toOption.bind setting.valueIn?
  | .override _ _ => none

/-- A file that is read, or that is missing and need not be there; or an override of a known
setting. -/
def Fits : Layer → Prop
  | .file path required =>
      ∃ file, fileAt machine tree path required = .ok file ∧ Orderly file ∧ PlainNames file
  | .override key _ => ∃ setting : Setting, key = setting.key

end Layer

theorem readFiles_laid {layers : List Layer} (fits : ∀ layer ∈ layers, layer.Fits machine tree) :
    ∃ files, (readFiles machine.system layers).run.run tree = (.ok files, tree) ∧
      ∀ base, Sectioned base →
        let after := files.foldl (fun base file => file.layOver base) base
        Sectioned after ∧ ∀ setting : Setting, setting.valueIn? after =
          (layers.map (Layer.value? machine tree setting)).foldl
            (fun found value => laid value found) (setting.valueIn? base) := by
  induction layers with
  | nil => exact ⟨[], rfl, fun base sectioned => ⟨sectioned, fun _ => rfl⟩⟩
  | cons layer layers ih =>
      obtain ⟨first, rest⟩ := List.forall_mem_cons.mp fits
      obtain ⟨files, read, laidOver⟩ := ih rest
      cases layer with
      | override key content => exact ⟨files, read, laidOver⟩
      | file path required =>
          obtain ⟨file, found, orderly, plain⟩ := first
          have distinct := fileAt_distinct machine tree found
          have firstRead := readFile_run machine tree path required
          rw [found] at firstRead
          refine ⟨file :: files, ?_, fun base sectioned => ?_⟩
          · rw [readFiles, attempt_run tree firstRead, attempt_run tree read]
            rfl
          · obtain ⟨after, values⟩ :=
              laidOver _ (sectioned_layOver distinct orderly plain sectioned)
            refine ⟨after, fun setting => ?_⟩
            rw [List.foldl_cons, values setting, valueIn?_layOver distinct orderly plain,
              List.map_cons, List.foldl_cons, Layer.value?, found]
            rfl

end

section
variable (machine : Machine) (tree : FileTree)

/-- The value that a setting is read from. The last override counts, then the last file that sets
the setting, then the built-in value. A file with an empty table sets nothing where something else
does. -/
def resolved (layers : List Layer) (setting : Setting) : Option Value :=
  (((layers.reverse.findSome? (Layer.overriding? setting)).or
    (layers.reverse.findSome? fun layer => (layer.value? machine tree setting).bind solid?)).or
    (setting.valueIn? builtIn)).or
    (layers.reverse.findSome? (Layer.value? machine tree setting))

variable {machine tree}

theorem load_resolved {layers : List Layer} (fits : ∀ layer ∈ layers, layer.Fits machine tree) :
    (load machine.system layers).run.run tree = (ofFound (resolved machine tree layers), tree) := by
  have known : ∀ layer ∈ layers, ∀ key content, layer = .override key content →
      ∃ setting : Setting, key = setting.key := by
    rintro _ member key content rfl
    exact fits _ member
  obtain ⟨sets, inOrder, last⟩ := overrides_last known
  obtain ⟨files, read, laidOver⟩ := readFiles_laid machine tree fits
  obtain ⟨filesSectioned, fileValues⟩ := laidOver builtIn builtIn_sectioned
  obtain ⟨sectioned, values⟩ := last _ filesSectioned
  have combined : ofValue (combine files sets) = ofFound (resolved machine tree layers) := by
    rw [combine, ofValue_sectioned sectioned, ← ofFound_seen,
      ← ofFound_seen (resolved machine tree layers)]
    congr 1
    funext setting
    have below := Value.foldl_laid (layers.map (Layer.value? machine tree setting))
      (setting.valueIn? builtIn)
    rw [← List.map_reverse, List.findSome?_map, List.findSome?_map, ← fileValues setting] at below
    rw [values setting, resolved]
    cases layers.reverse.findSome? (Layer.overriding? setting) with
    | some value => rfl
    | none => exact below
  have overridesRead : (ExceptT.mk (pure (overrides layers)) :
      ExceptT Failure (StateM FileTree) _).run.run tree = (.ok sets, tree) := by
    rw [inOrder]
    rfl
  rw [load, attempt_run tree overridesRead, attempt_run tree read, combined]
  rfl

theorem resolved_silent {before after : List Layer} {layer : Layer} {setting : Setting}
    (noOverride : layer.overriding? setting = none)
    (noValue : layer.value? machine tree setting = none) :
    resolved machine tree (before ++ layer :: after) setting =
      resolved machine tree (before ++ after) setting := by
  simp only [resolved, List.reverse_append, List.reverse_cons, List.findSome?_append,
    List.findSome?_singleton, noOverride, noValue, Option.bind_none, Option.or_none]

end

section
variable {m : Type → Type} [Monad m]

theorem overrides_filter (layers : List Layer) :
    overrides layers = overrides (layers.filter (! ·.isFile)) := by
  induction layers with
  | nil => rfl
  | cons layer layers ih =>
      cases layer with
      | file path required => exact ih
      | override key content =>
          change _ = overrides (.override key content :: layers.filter (! ·.isFile))
          rw [overrides, overrides, ih]

theorem readFiles_filter (system : System m) (layers : List Layer) :
    readFiles system layers = readFiles system (layers.filter Layer.isFile) := by
  induction layers with
  | nil => rfl
  | cons layer layers ih =>
      cases layer with
      | override key content => exact ih
      | file path required =>
          change _ = readFiles system (.file path required :: layers.filter Layer.isFile)
          rw [readFiles, readFiles, ih]

theorem load_order (system : System m) {first second : List Layer}
    (files : first.filter Layer.isFile = second.filter Layer.isFile)
    (sets : first.filter (! ·.isFile) = second.filter (! ·.isFile)) :
    load system first = load system second := by
  rw [load, load, overrides_filter first, sets, ← overrides_filter, readFiles_filter system first,
    files, ← readFiles_filter]

end

theorem absent_silent {machine : Machine} {tree : FileTree} {path : Path}
    (absent : textAt? machine tree path = none) (setting : Setting) :
    (Layer.file path false).value? machine tree setting = none := by
  rw [Layer.value?, fileAt, absent]
  rfl

/-! A directory with one file. -/

def lone : Machine where
  environment := []
  working := []
  execute _ _ := return .error .notFound

def withFile (content : Text) : FileTree := ⟨[(["mdtype.toml"], .file content.toBytes false)]⟩

theorem textAt?_withFile (content : Text) :
    textAt? lone (withFile content) "mdtype.toml" =
      some ("mdtype.toml".toList, dropByteOrderMark (Text.ofBytesLossy content.toBytes)) := rfl

theorem fileAt_withFile {content : Text} {value : Toml.Value}
    (decoded : dropByteOrderMark (Text.ofBytesLossy content.toBytes) = content)
    (read : Toml.read? content = some value) (required : Bool) :
    fileAt lone (withFile content) "mdtype.toml" required =
      .ok (.ofToml (some "mdtype.toml".toList) value) := by
  rw [fileAt, textAt?_withFile, decoded]
  dsimp only
  rw [read]
  rfl

theorem readLine?_entry {text rest behind : Text} {parts : List Text} {value : Toml.Value}
    (key : Toml.keyOf? text = some (parts, '=' :: rest))
    (read : Toml.readValue? 79 (2 * text.length + 1) (Toml.passBlanks rest) = some (value, behind)) :
    Toml.readLine? {} text =
      (Toml.Item.addValue (Toml.splitKey parts).1 (Toml.splitKey parts).2 (.value value)
        (.table .explicit [])).map fun root => (⟨root, []⟩, behind) := by
  have entry : Toml.readEntry? (Toml.maxDepth - 1) (2 * text.length + 2) text =
      some (Toml.splitKey parts, value, behind) := by
    unfold Toml.readEntry?
    rw [key]
    change (Toml.readValue? 79 (2 * text.length + 1) (Toml.passBlanks rest)).bind _ = _
    rw [read]
    rfl
  rw [Toml.readLine?, entry, Option.map_eq_bind]
  rfl

def scaleFile : Text := "diagrams.scale = 3\n"

theorem read?_scaleFile :
    Toml.read? scaleFile = some (.table [("diagrams", .table [("scale", .integer 3)])]) := by
  have key : Toml.keyOf? scaleFile = some (["diagrams".toList, "scale".toList], "= 3\n".toList) := by
    decide +kernel
  have value : Toml.readValue? 79 (2 * scaleFile.length + 1) "3\n" =
      some (.integer 3, "\n".toList) := by
    unfold Toml.readValue?
    rfl
  change ((Toml.readLine? {} scaleFile).bind _).map Toml.Item.toValue = _
  rw [readLine?_entry key value]
  rfl

def scaleLayers : List Layer :=
  [.override "output.asset_dir" (.text "assets"), .file "mdtype.toml" false, .file "more" false]

/-! All layers together. -/

/-- The settings are read from the resolved values. So an override may stand before or after any
file, an optional file that is absent changes nothing, and a layer changes no setting that it says
nothing about. -/
theorem load_layered {machine : Machine} {tree : FileTree} {layers : List Layer}
    (fits : ∀ layer ∈ layers, layer.Fits machine tree) :
    (load machine.system layers).run.run tree = (ofFound (resolved machine tree layers), tree) ∧
      (∀ other : List Layer, other.filter Layer.isFile = layers.filter Layer.isFile →
        other.filter (! ·.isFile) = layers.filter (! ·.isFile) →
        (load machine.system other).run.run tree = (load machine.system layers).run.run tree) ∧
      (∀ before path after, layers = before ++ after → textAt? machine tree path = none →
        (load machine.system (before ++ .file path false :: after)).run.run tree =
          (load machine.system layers).run.run tree) ∧
      ∀ before layer after, layers = before ++ layer :: after → ∀ setting,
        layer.overriding? setting = none → layer.value? machine tree setting = none →
        resolved machine tree layers setting = resolved machine tree (before ++ after) setting := by
  refine ⟨load_resolved fits, ?_, ?_, ?_⟩
  · intro other files sets
    rw [load_order machine.system files sets]
  · rintro before path after rfl absent
    have more : ∀ layer ∈ before ++ .file path false :: after, layer.Fits machine tree := by
      intro layer member
      rw [List.mem_append, List.mem_cons] at member
      rcases member with early | rfl | late
      · exact fits layer (List.mem_append_left _ early)
      · refine ⟨.table [], ?_, empty_orderly, empty_plainNames⟩
        rw [fileAt, absent]
        rfl
      · exact fits layer (List.mem_append_right _ late)
    rw [load_resolved more, load_resolved fits]
    congr 2
    funext setting
    exact resolved_silent rfl (absent_silent absent setting)
  · rintro before layer after rfl setting noOverride noValue
    exact resolved_silent noOverride noValue

theorem load_layered_scale :
    (∀ layer ∈ scaleLayers, layer.Fits lone (withFile scaleFile)) ∧
      (load lone.system scaleLayers).run.run (withFile scaleFile) =
        (.ok { diagrams := { scale := 3 }, assetDirectory := "assets" }, withFile scaleFile) := by
  have found := fileAt_withFile (by decide +kernel) read?_scaleFile false
  have orderly : Orderly (.ofToml (some "mdtype.toml".toList)
      (.table [("diagrams", .table [("scale", .integer 3)])])) := by
    refine ⟨List.forall_mem_singleton.mpr (by decide), ?_⟩
    intro setting value is
    cases setting <;> cases is <;> exact ⟨_, rfl, List.forall_mem_singleton.mpr (by decide)⟩
  have plain : PlainNames (.ofToml (some "mdtype.toml".toList)
      (.table [("diagrams", .table [("scale", .integer 3)])])) := by
    intro setting
    cases setting <;> exact List.forall_mem_singleton.mpr (by decide)
  have absent : fileAt lone (withFile scaleFile) "more" false = .ok (.table []) := by
    have missing : textAt? lone (withFile scaleFile) "more" = none := by decide +kernel
    rw [fileAt, missing]
    rfl
  have fits : ∀ layer ∈ scaleLayers, layer.Fits lone (withFile scaleFile) := by
    refine List.forall_mem_cons.mpr ⟨⟨.assetDirectory, rfl⟩, List.forall_mem_cons.mpr
      ⟨⟨_, found, orderly, plain⟩, List.forall_mem_singleton.mpr ?_⟩⟩
    exact ⟨_, absent, empty_orderly, empty_plainNames⟩
  refine ⟨fits, (load_layered fits).1.trans (congrArg (·, withFile scaleFile) ?_)⟩
  unfold ofFound
  simp only [resolved, scaleLayers, List.reverse_cons, List.reverse_nil, List.nil_append,
    List.cons_append, List.findSome?_cons, Layer.value?, found, absent]
  rfl

def lastSet (machine : Machine) (tree : FileTree) (layers : List Layer) (setting : Setting) :
    Option Value :=
  ((layers.reverse.findSome? (Layer.overriding? setting)).or
    (layers.reverse.findSome? (Layer.value? machine tree setting))).or (setting.valueIn? builtIn)

theorem load_file {machine : Machine} {tree : FileTree} {path : Path} {required : Bool}
    {file : Value} (found : fileAt machine tree path required = .ok file) :
    (load machine.system [.file path required]).run.run tree =
      (ofValue (file.layOver builtIn), tree) := by
  have read := readFile_run machine tree path required
  rw [found] at read
  have nothing : (ExceptT.mk (pure (overrides [.file path required])) :
      ExceptT Failure (StateM FileTree) _).run.run tree = (.ok [], tree) := rfl
  rw [load, attempt_run tree nothing, readFiles, bind_assoc, attempt_run tree read]
  rfl

def quotedFile : Text := "\"output.asset_dir\" = \"x\"\n"

def emptyFile : Text := "diagrams.background = {}\n"

theorem read?_quotedFile :
    Toml.read? quotedFile = some (.table [("output.asset_dir", .string "x")]) := by
  have key : Toml.keyOf? quotedFile = some (["output.asset_dir".toList], "= \"x\"\n".toList) := by
    decide +kernel
  have value : Toml.readValue? 79 (2 * quotedFile.length + 1) "\"x\"\n" =
      some (.string "x", "\n".toList) := by
    unfold Toml.readValue?
    rfl
  change ((Toml.readLine? {} quotedFile).bind _).map Toml.Item.toValue = _
  rw [readLine?_entry key value]
  rfl

theorem read?_emptyFile :
    Toml.read? emptyFile = some (.table [("diagrams", .table [("background", .table [])])]) := by
  have key : Toml.keyOf? emptyFile =
      some (["diagrams".toList, "background".toList], "= {}\n".toList) := by decide +kernel
  have value : Toml.readValue? 79 (2 * emptyFile.length + 1) "{}\n" =
      some (.table [], "\n".toList) := by
    unfold Toml.readValue?
    change (Toml.readEntries? 78 _ true (.table .explicit []) ['}', '\n']).bind _ = _
    unfold Toml.readEntries?
    rfl
  change ((Toml.readLine? {} emptyFile).bind _).map Toml.Item.toValue = _
  rw [readLine?_entry key value]
  rfl

/-- A name that is read as a key sets a setting outside of any section, and an empty table does not
take the place of a value. -/
theorem load_otherwise :
    let layers : List Layer := [.file "mdtype.toml" true]
    (∃ file, fileAt lone (withFile quotedFile) "mdtype.toml" true = .ok file ∧ Orderly file ∧
      (load lone.system layers).run.run (withFile quotedFile) =
        (.ok { assetDirectory := "x" }, withFile quotedFile) ∧
      ofFound (lastSet lone (withFile quotedFile) layers) = .ok {}) ∧
    (∃ file, fileAt lone (withFile emptyFile) "mdtype.toml" true = .ok file ∧ Orderly file ∧
      (load lone.system layers).run.run (withFile emptyFile) = (.ok {}, withFile emptyFile) ∧
      ofFound (lastSet lone (withFile emptyFile) layers) =
        .error (.type "map" "a string" "diagrams.background" none)) := by
  have quoted := fileAt_withFile (by decide +kernel) read?_quotedFile true
  have empty := fileAt_withFile (by decide +kernel) read?_emptyFile true
  refine ⟨⟨_, quoted, ⟨List.forall_mem_singleton.mpr (by decide), ?_⟩, ?_, ?_⟩,
    ⟨_, empty, ⟨List.forall_mem_singleton.mpr (by decide), ?_⟩, ?_, ?_⟩⟩
  · intro setting value is
    cases setting <;> cases is
  · rw [load_file quoted]
    exact congrArg (·, withFile quotedFile) (by decide +kernel)
  · unfold ofFound
    simp only [lastSet, List.reverse_singleton, List.findSome?_cons, List.findSome?_nil,
      Layer.value?, quoted]
    rfl
  · intro setting value is
    cases setting <;> cases is <;> exact ⟨_, rfl, List.forall_mem_singleton.mpr (by decide)⟩
  · rw [load_file empty]
    exact congrArg (·, withFile emptyFile) (by decide +kernel)
  · unfold ofFound
    simp only [lastSet, List.reverse_singleton, List.findSome?_cons, List.findSome?_nil,
      Layer.value?, empty]
    rfl

end Compositor.Settings

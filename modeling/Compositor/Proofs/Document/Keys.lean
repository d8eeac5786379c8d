import Compositor.Document.Frontmatter
import Compositor.Proofs.Yaml.Keys

/-! The keys of frontmatter, each for itself. What a key chooses depends on the value that is found
under its name and on nothing else, and a value of a kind that says nothing under the key chooses
what no value does. -/

namespace Compositor.Frontmatter

open Yaml

inductive Key where
  | title
  | author
  | date
  | numberedHeadings
  | tocDepth
  | font
  | preventHeadingOrphans
  | styleCodeBlocks
  | topLevelTitle
  | pageBreakLevel
  | headingSpacing
  | keepCodeWithPrevious
  | header
  | footer

namespace Key

def name : Key → Text
  | title => "title"
  | author => "author"
  | date => "date"
  | numberedHeadings => "numbered_headings"
  | tocDepth => "toc_depth"
  | font => "font"
  | preventHeadingOrphans => "prevent_heading_orphans"
  | styleCodeBlocks => "style_code_blocks"
  | topLevelTitle => "treat_top_level_as_title"
  | pageBreakLevel => "page_break_before_heading"
  | headingSpacing => "heading_spacing"
  | keepCodeWithPrevious => "keep_code_with_previous"
  | header => "header"
  | footer => "footer"

def Choice : Key → Type
  | title | author | date | font => Option Text
  | numberedHeadings | preventHeadingOrphans | styleCodeBlocks | keepCodeWithPrevious => Bool
  | tocDepth => UInt32
  | topLevelTitle => TitleMode
  | pageBreakLevel => Option UInt8
  | headingSpacing => HeadingSpacing
  | header | footer => Option PageBand

def chosen (style : DocumentStyle) : (key : Key) → key.Choice
  | title => style.title
  | author => style.author
  | date => style.date
  | numberedHeadings => style.numberedHeadings
  | tocDepth => style.tocDepth
  | font => style.font
  | preventHeadingOrphans => style.preventHeadingOrphans
  | styleCodeBlocks => style.styleCodeBlocks
  | topLevelTitle => style.topLevelTitle
  | pageBreakLevel => style.pageBreakLevel
  | headingSpacing => style.headingSpacing
  | keepCodeWithPrevious => style.keepCodeWithPrevious
  | header => style.header
  | footer => style.footer

def read (found : Option Value) : (key : Key) → key.Choice
  | title | author | date | font => found.bind Value.scalarText?
  | numberedHeadings => (found.bind Value.bool?).getD false
  | preventHeadingOrphans | styleCodeBlocks | keepCodeWithPrevious =>
      (found.bind Value.bool?).getD true
  | tocDepth =>
      ((found.bind Value.nat?).filter (· < UInt32.size)).elim ({} : DocumentStyle).tocDepth
        UInt32.ofNat
  | topLevelTitle => Frontmatter.titleMode found
  | pageBreakLevel => Frontmatter.pageBreakLevel found
  | headingSpacing => Frontmatter.headingSpacing found
  | header | footer => (found.bind Value.entries?).map pageBand

def takesText : Key → Bool
  | title | author | date | font | headingSpacing => true
  | _ => false

def takesEntries : Key → Bool
  | headingSpacing | header | footer => true
  | _ => false

/-- Whether the kind of the value, without its tags, says nothing under the key. -/
def ignores (key : Key) (value : Value) : Bool :=
  match value.untag with
  | .null | .sequence _ => true
  | .mapping _ => !key.takesEntries
  | .string _ => !key.takesText
  | _ => false

end Key

theorem style_ext {style other : DocumentStyle}
    (same : ∀ key : Key, key.chosen style = key.chosen other) : style = other := by
  cases style
  cases other
  rw [DocumentStyle.mk.injEq]
  exact ⟨same .title, same .author, same .date, same .numberedHeadings, same .tocDepth,
    same .font, same .preventHeadingOrphans, same .styleCodeBlocks, same .topLevelTitle,
    same .pageBreakLevel, same .headingSpacing, same .keepCodeWithPrevious, same .header,
    same .footer⟩

theorem chosen_ofEntries (entries : Entries) (key : Key) :
    key.chosen (ofEntries entries) = key.read (lookup? entries key.name) := by
  cases key with
  | tocDepth =>
      change tocDepth entries = Option.elim (Option.filter _ ((lookup? entries "toc_depth").bind _))
        _ UInt32.ofNat
      unfold tocDepth
      cases (lookup? entries "toc_depth").bind Value.nat? with
      | none => rfl
      | some depth =>
          by_cases fits : depth < UInt32.size
          · simp only [Option.filter_some, fits, decide_true, if_true]
            rfl
          · simp only [Option.filter_some, fits, decide_false, Bool.false_eq_true, if_false]
            rfl
  | _ => rfl

theorem scalarText?_untag (value : Value) : value.untag.scalarText? = value.scalarText? := by
  induction value using Value.untag.induct with
  | case1 _ value ih => exact ih
  | case2 value other =>
      cases value with
      | tagged tag value => exact absurd rfl (other tag value)
      | _ => rfl

theorem read_ignored {key : Key} {value : Value} (ignored : key.ignores value = true) :
    key.read ((some value).filter (! ·.isNull)) = key.read none := by
  by_cases null : value.isNull = true
  · rw [Option.filter_some_neg (by simp [null])]
  rw [Option.filter_some_pos (by simp [null])]
  unfold Key.ignores at ignored
  cases key with
  | title | author | date | font =>
      change value.scalarText? = none
      rw [← scalarText?_untag]
      cases kind : value.untag <;> simp_all [Key.takesText, Value.scalarText?]
  | numberedHeadings | preventHeadingOrphans | styleCodeBlocks | keepCodeWithPrevious =>
      have none : value.bool? = none := by
        unfold Value.bool?
        cases kind : value.untag <;> simp_all
      change value.bool?.getD _ = _
      rw [none]
      rfl
  | tocDepth =>
      have none : value.nat? = none := by
        unfold Value.nat?
        cases kind : value.untag <;> simp_all
      change ((value.nat?).filter _).elim _ _ = _
      rw [none]
      rfl
  | topLevelTitle =>
      change titleMode (some value) = .auto
      cases value with
      | bool flag => cases ignored
      | _ => rfl
  | pageBreakLevel =>
      change pageBreakLevel (some value) = pageBreakLevel none
      cases value with
      | bool flag => cases ignored
      | int number => cases ignored
      | _ => rfl
  | headingSpacing =>
      change headingSpacing (some value) = headingSpacing none
      cases value with
      | null => rfl
      | sequence items => rfl
      | tagged tag value => rfl
      | _ => cases ignored
  | header | footer =>
      have none : value.entries? = none := by
        unfold Value.entries?
        cases kind : value.untag <;> simp_all [Key.takesEntries]
      change value.entries?.map pageBand = _
      rw [none]
      rfl

/-- What it means for the style of a document that a key is set. -/
structure Independent (entries : Entries) (key value : Value) : Prop where
  /-- The value alone decides what the key chooses, and not what stood there before. -/
  own (known : Key) (named : key = .string known.name) :
    known.chosen (ofValue (.mapping (Yaml.insert key value entries))) =
      known.read ((some value).filter (! ·.isNull))
  others (known : Key) (other : key ≠ .string known.name) :
    known.chosen (ofValue (.mapping (Yaml.insert key value entries))) =
      known.chosen (ofValue (.mapping entries))
  unknown (stranger : ∀ known : Key, key ≠ .string known.name) :
    ofValue (.mapping (Yaml.insert key value entries)) = ofValue (.mapping entries)
  /-- A value that is ignored could as well be missing. -/
  ignored (ignores : ∀ known : Key, key = .string known.name → known.ignores value = true) :
    ofValue (.mapping (Yaml.insert key value entries)) = ofValue (.mapping (remove key entries))

theorem insert_independent (entries : Entries) (key value : Value) :
    Independent entries key value := by
  have others (known : Key) (other : key ≠ .string known.name) :
      known.chosen (ofEntries (Yaml.insert key value entries)) =
        known.chosen (ofEntries entries) := by
    rw [chosen_ofEntries, chosen_ofEntries, lookup?_insert_other other]
  have own (known : Key) (named : key = .string known.name) :
      known.chosen (ofEntries (Yaml.insert key value entries)) =
        known.read ((some value).filter (! ·.isNull)) := by
    rw [chosen_ofEntries, named, found_insert]
  refine ⟨own, others, fun stranger => style_ext fun known => others known (stranger known), ?_⟩
  intro ignores
  refine style_ext fun known => ?_
  change known.chosen (ofEntries _) = known.chosen (ofEntries _)
  by_cases named : key = .string known.name
  · rw [own known named, read_ignored (ignores known named), chosen_ofEntries, named,
      lookup?_remove]
  · rw [others known named, chosen_ofEntries, chosen_ofEntries, lookup?_remove_other named]

/-- Each key of frontmatter chooses for itself, whatever else there is and in whatever order. -/
theorem ofValue_keysApart :
    (∀ entries key value, Independent entries key value) ∧
    ∀ entries others, DistinctKeys entries → entries.Perm others →
      ofValue (.mapping entries) = ofValue (.mapping others) := by
  refine ⟨insert_independent, ?_⟩
  intro entries others distinct reordered
  refine style_ext fun known => ?_
  change known.chosen (ofEntries entries) = known.chosen (ofEntries others)
  rw [chosen_ofEntries, chosen_ofEntries, lookup?_perm distinct reordered]

theorem ofValue_keysApart_quotedLevel :
    let level : Value := .string "page_break_before_heading"
    let entries : Entries := [(.string "title", .string "Report"), (level, .int 1)]
    (∀ known : Key, level = .string known.name → known.ignores (.string "3") = true) ∧
      ofValue (.mapping (Yaml.insert level (.string "3") entries)) =
        ofValue (.mapping (remove level entries)) ∧
      DistinctKeys entries ∧ entries.Perm entries.reverse ∧
      ofValue (.mapping entries) = ofValue (.mapping entries.reverse) := by
  intro level entries
  have ignores (known : Key) (named : level = .string known.name) :
      known.ignores (.string "3") = true := by
    have sameName := Value.string.inj named
    revert sameName
    cases known <;> decide +kernel
  have distinct : DistinctKeys entries := by
    unfold DistinctKeys
    simp only [entries, level, List.pairwise_cons]
    decide +kernel
  have reordered : entries.Perm entries.reverse := (List.reverse_perm entries).symm
  exact ⟨ignores, (ofValue_keysApart.1 entries level (.string "3")).ignored ignores, distinct,
    reordered, ofValue_keysApart.2 entries entries.reverse distinct reordered⟩

end Compositor.Frontmatter

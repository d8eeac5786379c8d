import Compositor.Document.Frontmatter
import Compositor.Proofs.Yaml.Fields

/-! Every style can be written down in frontmatter. Each key has a value for each choice it stands
for: null for a text or a band that is not there, the value false for what is switched off, and
otherwise the choice itself. -/

namespace Compositor.Frontmatter

open Yaml

/-! The values. -/

def textValue : Option Text → Value
  | some text => .string text
  | none => .null

/-- A side that is left alone has to be said: without a value it would have its usual length. -/
def sideValue : Option Text → Value
  | some length => .string length
  | none => .bool false

def levelValue : Option UInt8 → Value
  | some level => .int (.ofNat level.toNat)
  | none => .bool false

def titleValue : TitleMode → Value
  | .on => .bool true
  | .off => .bool false
  | .auto => .string "auto"

def spacingFields (spacing : HeadingSpacing) : List (Text × Value) :=
  [("before", sideValue spacing.before), ("after", sideValue spacing.after)]

def bandFields (band : PageBand) : List (Text × Value) :=
  [("left", textValue band.left), ("center", textValue band.center),
    ("right", textValue band.right)]

def bandValue : Option PageBand → Value
  | some band => .mapping (named (bandFields band))
  | none => .null

def styleFields (style : DocumentStyle) : List (Text × Value) :=
  [("title", textValue style.title),
    ("author", textValue style.author),
    ("date", textValue style.date),
    ("numbered_headings", .bool style.numberedHeadings),
    ("toc_depth", .int (.ofNat style.tocDepth.toNat)),
    ("font", textValue style.font),
    ("prevent_heading_orphans", .bool style.preventHeadingOrphans),
    ("style_code_blocks", .bool style.styleCodeBlocks),
    ("treat_top_level_as_title", titleValue style.topLevelTitle),
    ("page_break_before_heading", levelValue style.pageBreakLevel),
    ("heading_spacing", .mapping (named (spacingFields style.headingSpacing))),
    ("keep_code_with_previous", .bool style.keepCodeWithPrevious),
    ("header", bandValue style.header),
    ("footer", bandValue style.footer)]

def styleEntries (style : DocumentStyle) : Entries := named (styleFields style)

theorem spacingFields_distinct (spacing : HeadingSpacing) :
    ((spacingFields spacing).map Prod.fst).Nodup := by
  unfold spacingFields
  simp only [List.map_cons, List.map_nil]
  decide +kernel

theorem bandFields_distinct (band : PageBand) : ((bandFields band).map Prod.fst).Nodup := by
  unfold bandFields
  simp only [List.map_cons, List.map_nil]
  decide +kernel

theorem styleFields_distinct (style : DocumentStyle) :
    ((styleFields style).map Prod.fst).Nodup := by
  unfold styleFields
  simp only [List.map_cons, List.map_nil]
  decide +kernel

/-! Reading them back. -/

section Reading

variable {entries : Entries} {name : Text}

theorem text_textValue {text : Option Text} (found : Found entries name (textValue text)) :
    Frontmatter.text entries name = text := by
  rw [Frontmatter.text, found]
  cases text <;> rfl

theorem flag_bool {flag : Bool} (found : Found entries name (.bool flag)) (fallback : Bool) :
    Frontmatter.flag entries name fallback = flag := by
  rw [Frontmatter.flag, found]
  rfl

theorem tocDepth_int {depth : UInt32}
    (found : Found entries "toc_depth" (.int (.ofNat depth.toNat))) : tocDepth entries = depth := by
  have read : (lookup? entries "toc_depth").bind Value.nat? = some depth.toNat := by
    rw [found]
    rfl
  unfold tocDepth
  rw [read]
  simp only [depth.toNat_lt_size, if_true, UInt32.ofNat_toNat]

theorem titleMode_titleValue {mode : TitleMode} (found : Found entries name (titleValue mode)) :
    titleMode (lookup? entries name) = mode := by
  rw [found]
  cases mode <;> rfl

theorem pageBreakLevel_levelValue {level : Option UInt8}
    (found : Found entries name (levelValue level)) :
    pageBreakLevel (lookup? entries name) = level := by
  rw [found]
  cases level with
  | none => rfl
  | some level =>
      have bound := level.toNat_lt
      have fits : min level.toNat 255 = level.toNat := by omega
      change some (UInt8.ofNat (min level.toNat 255)) = some level
      rw [fits, UInt8.ofNat_toNat]

theorem spacingSide_sideValue {length : Option Text}
    (found : Found entries name (sideValue length)) (fallback : Option Text) :
    spacingSide entries name fallback = length := by
  rw [spacingSide, found]
  cases length <;> rfl

theorem headingSpacing_spacingFields {spacing : HeadingSpacing}
    (found : Found entries name (.mapping (named (spacingFields spacing)))) :
    headingSpacing (lookup? entries name) = spacing := by
  have fields := named_holds (spacingFields_distinct spacing)
  rw [found]
  change HeadingSpacing.mk (spacingSide _ "before" _) (spacingSide _ "after" _) = spacing
  rw [spacingSide_sideValue (fields _ (.head _)),
    spacingSide_sideValue (fields _ (.tail _ (.head _)))]

theorem band_bandValue {band : Option PageBand} (found : Found entries name (bandValue band)) :
    Frontmatter.band entries name = band := by
  rw [Frontmatter.band, found]
  cases band with
  | none => rfl
  | some band =>
      have fields := named_holds (bandFields_distinct band)
      change some (PageBand.mk (text _ "left") (text _ "center") (text _ "right")) = some band
      rw [text_textValue (fields _ (.head _)), text_textValue (fields _ (.tail _ (.head _))),
        text_textValue (fields _ (.tail _ (.tail _ (.head _))))]

theorem ofEntries_holds {style : DocumentStyle} (holds : Holds entries (styleFields style)) :
    ofEntries entries = style := by
  unfold Holds styleFields at holds
  simp only [List.forall_mem_cons] at holds
  obtain ⟨title, author, date, numberedHeadings, depth, font, preventHeadingOrphans,
    styleCodeBlocks, topLevelTitle, level, spacing, keepCodeWithPrevious, header, footer, -⟩ :=
    holds
  unfold ofEntries
  rw [text_textValue title, text_textValue author, text_textValue date,
    flag_bool numberedHeadings, tocDepth_int depth, text_textValue font,
    flag_bool preventHeadingOrphans, flag_bool styleCodeBlocks, titleMode_titleValue topLevelTitle,
    pageBreakLevel_levelValue level, headingSpacing_spacingFields spacing,
    flag_bool keepCodeWithPrevious, band_bandValue header, band_bandValue footer]

end Reading

/-! The mapping is one that can be written. -/

theorem textValue_wellFormed (text : Option Text) : (textValue text).WellFormed := by
  cases text with
  | none => exact .null
  | some text => exact .string text

theorem sideValue_wellFormed (length : Option Text) : (sideValue length).WellFormed := by
  cases length with
  | none => exact .bool false
  | some length => exact .string length

theorem levelValue_wellFormed (level : Option UInt8) : (levelValue level).WellFormed := by
  cases level with
  | none => exact .bool false
  | some level => exact ofNat_wellFormed (Nat.lt_trans level.toNat_lt (by decide))

theorem titleValue_wellFormed (mode : TitleMode) : (titleValue mode).WellFormed := by
  cases mode with
  | on => exact .bool true
  | off => exact .bool false
  | auto => exact .string _

theorem spacingFields_wellFormed (spacing : HeadingSpacing) :
    (Value.mapping (named (spacingFields spacing))).WellFormed := by
  refine named_wellFormed (spacingFields_distinct spacing) ?_
  unfold spacingFields
  simp only [List.forall_mem_cons]
  exact ⟨sideValue_wellFormed _, sideValue_wellFormed _, nofun⟩

theorem bandValue_wellFormed (band : Option PageBand) : (bandValue band).WellFormed := by
  cases band with
  | none => exact .null
  | some band =>
      refine named_wellFormed (bandFields_distinct band) ?_
      unfold bandFields
      simp only [List.forall_mem_cons]
      exact ⟨textValue_wellFormed _, textValue_wellFormed _, textValue_wellFormed _, nofun⟩

theorem styleEntries_wellFormed (style : DocumentStyle) :
    (Value.mapping (styleEntries style)).WellFormed := by
  have depth : (Value.int (.ofNat style.tocDepth.toNat)).WellFormed :=
    ofNat_wellFormed (Nat.lt_trans style.tocDepth.toNat_lt (by decide))
  refine named_wellFormed (styleFields_distinct style) ?_
  unfold styleFields
  simp only [List.forall_mem_cons]
  exact ⟨textValue_wellFormed _, textValue_wellFormed _, textValue_wellFormed _, .bool _, depth,
    textValue_wellFormed _, .bool _, .bool _, titleValue_wellFormed _, levelValue_wellFormed _,
    spacingFields_wellFormed _, .bool _, bandValue_wellFormed _, bandValue_wellFormed _, nofun⟩

/-- A style is read from the mapping that restates it, so restating what was read changes
nothing. -/
theorem ofValue_styleEntries :
    (∀ style, (Value.mapping (styleEntries style)).WellFormed ∧
      ofValue (.mapping (styleEntries style)) = style) ∧
    ∀ value, ofValue (.mapping (styleEntries (ofValue value))) = ofValue value := by
  have restated (style : DocumentStyle) : ofValue (.mapping (styleEntries style)) = style :=
    ofEntries_holds (named_holds (styleFields_distinct style))
  exact ⟨fun style => ⟨styleEntries_wellFormed style, restated style⟩,
    fun value => restated (ofValue value)⟩

end Compositor.Frontmatter

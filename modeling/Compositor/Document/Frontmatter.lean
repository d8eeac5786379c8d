import Compositor.Document.Style
import Compositor.Yaml.Document

/-! The style of a document read from a YAML value. Each key stands for itself: a value of the
wrong kind counts as no value. -/

namespace Compositor.Frontmatter

open Yaml

abbrev Entries := List (Value × Value)

def text (entries : Entries) (name : Text) : Option Text :=
  (lookup? entries name).bind Value.scalarText?

def flag (entries : Entries) (name : Text) (fallback : Bool) : Bool :=
  ((lookup? entries name).bind Value.bool?).getD fallback

/-- A number that does not fit counts as none. -/
def tocDepth (entries : Entries) : UInt32 :=
  match (lookup? entries "toc_depth").bind Value.nat? with
  | some depth => if depth < UInt32.size then UInt32.ofNat depth else ({} : DocumentStyle).tocDepth
  | none => ({} : DocumentStyle).tocDepth

/-- Only the two truth values decide; a tag hides them. -/
def titleMode : Option Value → TitleMode
  | some (.bool true) => .on
  | some (.bool false) => .off
  | _ => .auto

/-- The value false disables page breaks, and a level that is too large is the largest one. -/
def pageBreakLevel : Option Value → Option UInt8
  | some (.bool false) => none
  | some (.int (.ofNat level)) => some (UInt8.ofNat (min level 255))
  | _ => ({} : DocumentStyle).pageBreakLevel

def spacingSide (entries : Entries) (name : Text) (fallback : Option Text) : Option Text :=
  match lookup? entries name with
  | some (.bool false) => none
  | some value => value.scalarText? <|> fallback
  | none => fallback

def headingSpacing : Option Value → HeadingSpacing
  | some (.bool false) => ⟨none, none⟩
  | some (.string text) => { after := some text }
  | some (.int number) => { after := some (intText number) }
  | some (.float number) => { after := some (floatText number) }
  | some (.mapping entries) =>
      { before := spacingSide entries "before" ({} : HeadingSpacing).before
        after := spacingSide entries "after" ({} : HeadingSpacing).after }
  | _ => {}

def pageBand (entries : Entries) : PageBand :=
  { left := text entries "left", center := text entries "center", right := text entries "right" }

def band (entries : Entries) (name : Text) : Option PageBand :=
  ((lookup? entries name).bind Value.entries?).map pageBand

def ofEntries (entries : Entries) : DocumentStyle :=
  { title := text entries "title"
    author := text entries "author"
    date := text entries "date"
    numberedHeadings := flag entries "numbered_headings" false
    tocDepth := tocDepth entries
    font := text entries "font"
    preventHeadingOrphans := flag entries "prevent_heading_orphans" true
    styleCodeBlocks := flag entries "style_code_blocks" true
    topLevelTitle := titleMode (lookup? entries "treat_top_level_as_title")
    pageBreakLevel := pageBreakLevel (lookup? entries "page_break_before_heading")
    headingSpacing := headingSpacing (lookup? entries "heading_spacing")
    keepCodeWithPrevious := flag entries "keep_code_with_previous" true
    header := band entries "header"
    footer := band entries "footer" }

def ofValue (value : Value) : DocumentStyle :=
  match value.entries? with
  | some entries => ofEntries entries
  | none => {}

def ofText (text : Option Text) : DocumentStyle :=
  match text.bind Yaml.read? with
  | some value => ofValue value
  | none => {}

end Compositor.Frontmatter

import Compositor.Proofs.Markup.Content
import Compositor.Proofs.Markup.Literals
import Compositor.Proofs.Path.Steps

/-! Where the markup of a document is written has no part in it. Logos and diagrams lie in the asset
directory of the output directory, so the ways to them from there are the same everywhere. -/

namespace Compositor.Markup

open Text

/-! Files in the asset directory. -/

def assetFile (places : Places) (name : Text) : Path :=
  Path.join (Path.join places.output places.assets) name

def assetWay (assets name : Text) : Path :=
  Path.forwardSlashes (Path.ofComponents (Path.steps (Path.join assets name)))

theorem mem_assetWay {assets name : Text} {character : Char}
    (member : character ∈ assetWay assets name) :
    character ∈ assets ∨ character ∈ name ∨ character = '/' := by
  obtain ⟨original, inside, rfl⟩ := List.mem_map.mp member
  by_cases backslash : original = '\\'
  · rw [if_pos backslash]
    exact .inr (.inr rfl)
  rw [if_neg backslash]
  obtain joined | slash := Path.mem_ofComponents_steps inside
  · exact Path.mem_join joined
  · exact .inr (.inr slash)

section AssetFiles

variable {places : Places} {name : Text} (notEmpty : places.output ≠ [])
  (assetsRelative : Path.isAbsolute places.assets = false)
  (nameRelative : Path.isAbsolute name = false)
include notEmpty assetsRelative nameRelative

theorem relativeTo_assetFile :
    Path.relativeTo (assetFile places name) places.output = assetWay places.assets name := by
  have inner := Path.isAbsolute_join_relative nameRelative assetsRelative
  rw [assetFile, Path.join_assoc nameRelative assetsRelative, Path.relativeTo_join notEmpty inner]
  rfl

theorem resolve_assetFile (assetsPlain : '\\' ∉ places.assets) (namePlain : '\\' ∉ name) :
    Path.resolve (Path.join places.output (Path.relativeTo (assetFile places name) places.output)) =
      Path.resolve (assetFile places name) := by
  have inner := Path.isAbsolute_join_relative nameRelative assetsRelative
  have plain : '\\' ∉ Path.join places.assets name := by
    intro member
    rcases Path.mem_join member with inAssets | inName | slash
    · exact assetsPlain inAssets
    · exact namePlain inName
    · cases slash
  rw [assetFile, Path.join_assoc nameRelative assetsRelative]
  exact Path.resolve_relativeTo_join notEmpty inner plain

end AssetFiles

def imageName (number : Nat) : Text := DiagramBlock.name number ++ ".png"

theorem mem_imageName {number : Nat} {character : Char} (member : character ∈ imageName number) :
    character.isDigit = true ∨ character ∈ ("diagram-.png" : Text) := by
  have front : ("diagram-" : Text) ⊆ ("diagram-.png" : Text) := by decide
  have ending : (".png" : Text) ⊆ ("diagram-.png" : Text) := by decide
  rcases List.mem_append.mp member with inName | inEnding
  · rcases List.mem_append.mp inName with inFront | inNumber
    · exact .inr (front inFront)
    · exact .inl (Nat.isDigit_of_mem_toDigits (by decide) (Nat.le_refl 10) inNumber)
  · exact .inr (ending inEnding)

theorem imageName_plain (number : Nat) :
    '\\' ∉ imageName number ∧ '\n' ∉ imageName number ∧
      Path.isAbsolute (imageName number) = false := by
  refine ⟨?_, ?_, rfl⟩
  · intro member
    exact absurd (mem_imageName member) (by decide)
  · intro member
    exact absurd (mem_imageName member) (by decide)

theorem fileName?_relative {path : Path} {name : Text} (found : Path.fileName? path = some name) :
    Path.isAbsolute name = false := by
  rw [Path.isAbsolute, beq_eq_false_iff_ne]
  intro slash
  have inName := List.mem_of_head? slash
  simpa using Text.not_mem_split (Path.fileName?_mem_segments found) '/' inName

/-! The body is the same wherever its diagrams are. -/

section Body

variable {first second : Setting} {titleMode : Bool}

theorem groupsMarkup_congr
    (same : ∀ nodes progress,
      blocks first titleMode nodes progress = blocks second titleMode nodes progress)
    (groups : List Group) (progress : Progress) :
    groupsMarkup first titleMode groups progress =
      groupsMarkup second titleMode groups progress := by
  induction groups generalizing progress with
  | nil => rfl
  | cons group groups ih => simp only [groupsMarkup, Group.markup, same, ih]

theorem codeBlock_congr
    (ways : first.diagrams.map (fun diagram => Path.relativeTo diagram.image first.output) =
      second.diagrams.map fun diagram => Path.relativeTo diagram.image second.output)
    (language : Option Text) (code : Text) (progress : Progress) :
    codeBlock first language code progress = codeBlock second language code progress := by
  have way := congrArg (·[progress.diagramCursor]?) ways
  simp only [List.getElem?_map] at way
  unfold codeBlock
  by_cases isDiagram : language = some diagramLanguage
  · rw [if_pos isDiagram, if_pos isDiagram]
    cases here : first.diagrams[progress.diagramCursor]? with
    | none =>
        cases there : second.diagrams[progress.diagramCursor]? with
        | none => rfl
        | some diagram => simp [here, there] at way
    | some diagram =>
        cases there : second.diagrams[progress.diagramCursor]? with
        | none => simp [here, there] at way
        | some other =>
            simp only [here, there, Option.map_some, Option.some.injEq] at way
            have figure : diagramFigure first.output diagram.image =
                diagramFigure second.output other.image := by
              unfold diagramFigure
              rw [way]
            exact congrArg (·, _) figure
  · rw [if_neg isDiagram, if_neg isDiagram]

theorem body_congr (sameStyle : first.style = second.style)
    (ways : first.diagrams.map (fun diagram => Path.relativeTo diagram.image first.output) =
      second.diagrams.map fun diagram => Path.relativeTo diagram.image second.output)
    (nodes : List Node) (progress : Progress) :
    body first titleMode nodes progress = body second titleMode nodes progress := by
  have alike : SetsAlike second first :=
    ⟨congrArg _ sameStyle, congrArg _ sameStyle, codeBlock_congr ways⟩
  have same (nodes : List Node) (progress : Progress) :
      blocks first titleMode nodes progress = blocks second titleMode nodes progress :=
    blocks_congr nodes (fun node _ => (block_congr alike node).1) progress
  rw [body, body, sameStyle]
  exact groupsMarkup_congr same _ progress

end Body

/-! Settings whose files are in their asset directories. -/

structure Located (setting : Setting) (numbers : List Nat) : Prop where
  output : setting.output ≠ []
  assets : Path.isAbsolute setting.assets = false
  logos : ∀ path ∈ bandLogos setting.style, (Path.fileName? path).isSome = true
  images : setting.diagrams.map (·.image) =
    numbers.map fun number => assetFile setting.toPlaces (imageName number)

structure BackslashFree (setting : Setting) : Prop where
  assets : '\\' ∉ setting.assets
  logos : ∀ path ∈ bandLogos setting.style, ∀ name ∈ Path.fileName? path, '\\' ∉ name

section Located

variable {setting : Setting} {numbers : List Nat} (located : Located setting numbers)
include located

theorem Located.logoFile {path : Path} (isLogo : path ∈ bandLogos setting.style) :
    ∃ name ∈ Path.fileName? path,
      (logoCopy setting.toPlaces path).destination = assetFile setting.toPlaces name := by
  obtain ⟨name, found⟩ := Option.isSome_iff_exists.mp (located.logos path isLogo)
  refine ⟨name, found, ?_⟩
  rw [logoCopy, found]
  rfl

theorem Located.logoWay {path : Path} (isLogo : path ∈ bandLogos setting.style) :
    ∃ name ∈ Path.fileName? path,
      Path.relativeTo (logoCopy setting.toPlaces path).destination setting.output =
        assetWay setting.assets name := by
  obtain ⟨name, found, destination⟩ := located.logoFile isLogo
  refine ⟨name, found, ?_⟩
  rw [destination]
  exact relativeTo_assetFile located.output located.assets (fileName?_relative found)

theorem Located.imageFile {diagram : RenderedDiagram} (isDiagram : diagram ∈ setting.diagrams) :
    ∃ number, diagram.image = assetFile setting.toPlaces (imageName number) := by
  have isImage : diagram.image ∈ setting.diagrams.map (·.image) :=
    List.mem_map.mpr ⟨diagram, isDiagram, rfl⟩
  rw [located.images] at isImage
  obtain ⟨number, -, same⟩ := List.mem_map.mp isImage
  exact ⟨number, same.symm⟩

theorem Located.imageWay (number : Nat) :
    Path.relativeTo (assetFile setting.toPlaces (imageName number)) setting.output =
      assetWay setting.assets (imageName number) :=
  relativeTo_assetFile located.output located.assets (imageName_plain number).2.2

theorem Located.imageWays :
    setting.diagrams.map (fun diagram => Path.relativeTo diagram.image setting.output) =
      numbers.map fun number => assetWay setting.assets (imageName number) := by
  have ways := congrArg (List.map fun image => Path.relativeTo image setting.output) located.images
  rw [List.map_map, List.map_map] at ways
  refine ways.trans (List.map_congr_left fun number _ => ?_)
  exact located.imageWay number

theorem Located.oneLine (oneLine : '\n' ∉ setting.assets) :
    ∀ diagram ∈ setting.diagrams, '\n' ∉ Path.relativeTo diagram.image setting.output := by
  intro diagram isDiagram member
  obtain ⟨number, image⟩ := located.imageFile isDiagram
  rw [image, located.imageWay number] at member
  rcases mem_assetWay member with inAssets | inName | slash
  · exact oneLine inAssets
  · exact (imageName_plain number).2.1 inName
  · cases slash

end Located

/-- The literals stand in the markup, and the path in each of them leads from the output directory
to its file. -/
structure LeadTo (output : Path) (files : List (Literal × Path)) (markup : Text) : Prop where
  written : OccursInOrder (files.map (·.1.written)) markup
  denotes : ∀ file ∈ files,
    Path.resolve (Path.join output file.1.value) = Path.resolve file.2

def logoFiles (setting : Setting) : List (Literal × Path) :=
  (bandCopies setting.toPlaces setting.style).map fun copy =>
    (logoLiteral setting.output copy, copy.destination)

def imageFiles (setting : Setting) (nodes : List Node) : List (Literal × Path) :=
  let titleMode := setting.style.titleMode nodes
  (setting.diagrams.take (body setting titleMode nodes {}).2.diagramCursor).map fun diagram =>
    (figureLiteral setting.output diagram.image, diagram.image)

section Located

variable {setting : Setting} {numbers : List Nat} (located : Located setting numbers)
  (backslashFree : BackslashFree setting)
include located backslashFree

theorem Located.logosLead (nodes : List Node) :
    LeadTo setting.output (logoFiles setting) (convert setting nodes).markup := by
  constructor
  · have preamble := preamble_written setting.toPlaces setting.style
      (setting.style.titleMode nodes)
    rw [preambleLiterals, List.map_append] at preamble
    have logos := preamble.sublist (List.sublist_append_right _ _)
    rw [logoFiles, List.map_map]
    rw [List.map_map] at logos
    exact logos.extend _
  · intro file isFile
    obtain ⟨copy, isCopy, rfl⟩ := List.mem_map.mp isFile
    obtain ⟨path, isLogo, rfl⟩ := mem_bandCopies.mp isCopy
    obtain ⟨name, found, destination⟩ := located.logoFile isLogo
    have plain := backslashFree.logos path isLogo name found
    change Path.resolve (Path.join setting.output (Path.relativeTo _ setting.output)) = _
    rw [destination]
    exact resolve_assetFile located.output located.assets (fileName?_relative found)
      backslashFree.assets plain

theorem Located.imagesLead (oneLine : '\n' ∉ setting.assets) (nodes : List Node) :
    LeadTo setting.output (imageFiles setting nodes) (convert setting nodes).markup := by
  constructor
  · have figures := @body_written setting (setting.style.titleMode nodes)
      (located.oneLine oneLine) nodes
    rw [figureTexts, List.map_map] at figures
    rw [imageFiles, List.map_map]
    exact figures.prepend _
  · intro file isFile
    obtain ⟨diagram, isShown, rfl⟩ := List.mem_map.mp isFile
    obtain ⟨number, image⟩ := located.imageFile (List.mem_of_mem_take isShown)
    obtain ⟨plain, -, relative⟩ := imageName_plain number
    change Path.resolve (Path.join setting.output (Path.relativeTo diagram.image _)) = _
    rw [image]
    exact resolve_assetFile located.output located.assets relative backslashFree.assets plain

end Located

section Pair

variable {first second : Setting} {numbers : List Nat} (here : Located first numbers)
  (there : Located second numbers) (sameAssets : first.assets = second.assets)
include here there sameAssets

theorem Located.sameLogos (sameStyle : first.style = second.style) {path : Path}
    (isLogo : path ∈ bandLogos second.style) (height : Option Text) :
    logoMarkup first.toPlaces path height = logoMarkup second.toPlaces path height := by
  obtain ⟨name, found, way⟩ := here.logoWay (sameStyle ▸ isLogo)
  obtain ⟨other, foundOther, wayOther⟩ := there.logoWay isLogo
  obtain rfl := Option.mem_unique found foundOther
  unfold logoMarkup
  rw [way, wayOther, sameAssets]

theorem Located.sameWays :
    first.diagrams.map (fun diagram => Path.relativeTo diagram.image first.output) =
      second.diagrams.map fun diagram => Path.relativeTo diagram.image second.output := by
  rw [here.imageWays, there.imageWays, sameAssets]

theorem Located.sameMarkup (sameStyle : first.style = second.style) (nodes : List Node) :
    (convert first nodes).markup = (convert second nodes).markup := by
  have preamble (titleMode : Bool) : preamble first.toPlaces second.style titleMode =
      preamble second.toPlaces second.style titleMode := by
    refine (preamble_composed second.style titleMode).congr fun token isToken => ?_
    exact here.sameLogos there sameAssets sameStyle (List.mem_map_of_mem isToken)
  have body := @body_congr first second (second.style.titleMode nodes) sameStyle
    (here.sameWays there sameAssets) nodes {}
  unfold convert
  simp only [sameStyle, preamble, body]

end Pair

/-- The markup does not depend on the place that it is written to, and the paths in it lead from
there to the files. A line feed in the name of the asset directory is left out for diagrams, since
a list item indents what follows it. -/
theorem convert_relocated {first second : Setting} {numbers : List Nat}
    (here : Located first numbers) (there : Located second numbers)
    (sameStyle : first.style = second.style) (sameAssets : first.assets = second.assets)
    (nodes : List Node) :
    (convert first nodes).markup = (convert second nodes).markup ∧
      ∀ setting ∈ [first, second], BackslashFree setting →
        LeadTo setting.output (logoFiles setting) (convert setting nodes).markup ∧
          ('\n' ∉ setting.assets →
            LeadTo setting.output (imageFiles setting nodes) (convert setting nodes).markup) := by
  refine ⟨here.sameMarkup there sameAssets sameStyle nodes, ?_⟩
  intro setting member plain
  have located : Located setting numbers := by
    rcases List.mem_cons.mp member with rfl | last
    · exact here
    · exact List.mem_singleton.mp last ▸ there
  refine ⟨located.logosLead plain nodes, ?_⟩
  intro oneLine
  exact located.imagesLead plain oneLine nodes

theorem convert_relocated_upward :
    let style : DocumentStyle := { footer := some { left := some "{logo:/img/a.png}" } }
    let first : Setting :=
      { output := ".", source := "notes", assets := "../img/./x"
        diagrams := [⟨"diagram-0", "./../img/./x/diagram-0.png"⟩], style := style }
    let second : Setting :=
      { output := "/srv//out/", assets := "../img/./x"
        diagrams := [⟨"diagram-0", "/srv//out/../img/./x/diagram-0.png"⟩], style := style }
    let nodes : List Node := [.list true [.listItem [.codeBlock (some "mermaid") "a --> b"]]]
    Located first [0] ∧ Located second [0] ∧ first.style = second.style ∧
      first.assets = second.assets ∧ BackslashFree second ∧ '\n' ∉ second.assets ∧
      (convert first nodes).markup = (convert second nodes).markup ∧
      LeadTo second.output (imageFiles second nodes) (convert second nodes).markup := by
  intro style first second nodes
  have here : Located first [0] :=
    ⟨by decide, by decide, by decide +kernel, by decide +kernel⟩
  have there : Located second [0] :=
    ⟨by decide, by decide, by decide +kernel, by decide +kernel⟩
  have plain : BackslashFree second := ⟨by decide, by decide +kernel⟩
  have oneLine : '\n' ∉ second.assets := by decide
  obtain ⟨same, lead⟩ := convert_relocated here there rfl rfl nodes
  exact ⟨here, there, rfl, rfl, plain, oneLine, same,
    (lead second (.tail _ (.head _)) plain).2 oneLine⟩

/-- In a list item, a path with a line feed is indented together with the markup around it. -/
theorem convert_relocated_itemImage :
    let setting : Setting :=
      { output := "out", assets := "a\nb", diagrams := [⟨"diagram-0", "out/a\nb/diagram-0.png"⟩]
        style := { preventHeadingOrphans := false, styleCodeBlocks := false,
                   headingSpacing := ⟨none, none⟩ } }
    let nodes : List Node := [.list false [.listItem [.codeBlock (some "mermaid") "a --> b"]]]
    let markup := (convert setting nodes).markup
    Located setting [0] ∧ BackslashFree setting ∧
      markup = "- #figure(\n    image(\"a\n  b/diagram-0.png\", width: 80%),\n  )\n\n".toList ∧
      ∀ start ∈ markup.tails, ∀ opened ∈ stripStart? "image(\"".toList start,
        ∀ read ∈ readLiteral? opened,
          Path.resolve (Path.join setting.output read.1) ≠
            Path.resolve (assetFile setting.toPlaces (imageName 0)) := by
  intro setting nodes markup
  have located : Located setting [0] :=
    ⟨by decide, by decide, by decide +kernel, by decide +kernel⟩
  have plain : BackslashFree setting := ⟨by decide, by decide +kernel⟩
  exact ⟨located, plain, by decide +kernel⟩

end Compositor.Markup

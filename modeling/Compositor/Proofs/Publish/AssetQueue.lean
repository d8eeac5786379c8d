import Compositor.Markup.Conversion
import Compositor.Proofs.Markup.Logos
import Compositor.Proofs.Publish.Copies

/-! The copies that a conversion queues. They all go to one directory, under base names alone, and
rendered diagrams lie there too. So it is their base names that keep them apart. -/

namespace Compositor.Markup

def Places.assetDirectory (places : Places) : Path := Path.join places.output places.assets

def LiesIn (directory image : Path) : Prop :=
  (Path.fileName? image).map (Path.join directory) = some image

instance (directory image : Path) : Decidable (LiesIn directory image) := by
  unfold LiesIn
  infer_instance

/-- Logos have base names, different ones have different names, and the diagrams in the asset
directory have names of their own. -/
structure NamesApart (setting : Setting) : Prop where
  named : ∀ path ∈ bandLogos setting.style, (Path.fileName? path).isSome = true
  logos : ∀ first ∈ bandLogos setting.style, ∀ second ∈ bandLogos setting.style,
    Path.fileName? first = Path.fileName? second →
      Path.join setting.source first = Path.join setting.source second
  diagrams : ∀ diagram ∈ setting.diagrams, LiesIn setting.assetDirectory diagram.image →
    ∀ path ∈ bandLogos setting.style, Path.fileName? path ≠ Path.fileName? diagram.image

structure AssetsApart (setting : Setting) (assets : List AssetCopy) : Prop where
  sources : ∀ first ∈ assets, ∀ second ∈ assets,
    first.destination = second.destination → first.source = second.source
  diagrams : ∀ copy ∈ assets, ∀ diagram ∈ setting.diagrams, copy.destination ≠ diagram.image
  byName : ∀ first ∈ assets, ∀ second ∈ assets, first.destination = second.destination ↔
    Path.fileName? first.source = Path.fileName? second.source
  /-- A logo whose copy succeeds reads as its source does, however the other copies end. -/
  copied (machine : Machine) (tree : FileTree) (before after : List AssetCopy) (copy : AssetCopy)
      (turn : assets = before ++ copy :: after)
      (done : copy.outcome machine (AssetCopy.filesAfter machine before tree) = .ok ()) :
    AssetCopy.Agree machine copy (AssetCopy.filesAfter machine assets tree)
  kept (machine : Machine) (tree : FileTree) (path : Path) (content : Bytes)
      (was : tree.read machine.working path = .ok content)
      (elsewhere : ∀ copy ∈ assets, ∀ location, tree.locate machine.working path = .ok location →
        (AssetCopy.filesAfter machine assets tree).locate machine.working copy.destination ≠
          .ok location) :
    (AssetCopy.filesAfter machine assets tree).read machine.working path = .ok content
  /-- Every source that is not copied onto itself reads as before. -/
  originals (machine : Machine) (tree : FileTree) (copy : AssetCopy) (content : Bytes)
      (isCopy : copy ∈ assets) (was : tree.read machine.working copy.source = .ok content)
      (apart : (AssetCopy.filesAfter machine assets tree).locate machine.working copy.source ≠
        (AssetCopy.filesAfter machine assets tree).locate machine.working copy.destination) :
    (AssetCopy.filesAfter machine assets tree).read machine.working copy.source = .ok content
  shown (machine : Machine) (tree : FileTree) (diagram : RenderedDiagram) (content : Bytes)
      (isDiagram : diagram ∈ setting.diagrams) (lies : LiesIn setting.assetDirectory diagram.image)
      (was : tree.read machine.working diagram.image = .ok content) :
    (AssetCopy.filesAfter machine assets tree).read machine.working diagram.image = .ok content

section Logos

variable {setting : Setting}

theorem logoCopy_destination {places : Places} {path : Path} {name : Text}
    (named : Path.fileName? path = some name) :
    (logoCopy places path).destination = Path.join places.assetDirectory name := by
  simp only [logoCopy, named]
  rfl

theorem logoCopy_goesBy {places : Places} {path : Path} {name : Text}
    (named : Path.fileName? path = some name) : (logoCopy places path).GoesBy name where
  isName := (Path.fileName?_segments named).1
  source := Path.fileName?_join named places.source
  destination := ⟨places.assetDirectory, logoCopy_destination named⟩

theorem logoCopy_byName {places : Places} {first second : Path} {name secondName : Text}
    (named : Path.fileName? first = some name)
    (secondNamed : Path.fileName? second = some secondName) :
    (logoCopy places first).destination = (logoCopy places second).destination ↔
      name = secondName := by
  rw [logoCopy_destination named, logoCopy_destination secondNamed]
  exact Path.join_inj (Path.fileName?_segments named).1.relative
    (Path.fileName?_segments secondNamed).1.relative

namespace NamesApart

variable (apart : NamesApart setting) {nodes : List Node}
include apart

theorem of_mem {copy : AssetCopy} (isCopy : copy ∈ (convert setting nodes).assets) :
    ∃ path ∈ bandLogos setting.style, ∃ name, Path.fileName? path = some name ∧
      logoCopy setting.toPlaces path = copy := by
  obtain ⟨path, isLogo, same⟩ := mem_bandCopies.mp isCopy
  obtain ⟨name, named⟩ := Option.isSome_iff_exists.mp (apart.named path isLogo)
  exact ⟨path, isLogo, name, named, same⟩

theorem queue : AssetCopy.Apart (convert setting nodes).assets := by
  constructor
  · intro copy isCopy
    obtain ⟨path, _, name, named, rfl⟩ := apart.of_mem isCopy
    exact ⟨name, logoCopy_goesBy named⟩
  · intro first isFirst second isSecond sameName
    obtain ⟨path, isLogo, name, named, rfl⟩ := apart.of_mem isFirst
    obtain ⟨other, isOther, otherName, otherNamed, rfl⟩ := apart.of_mem isSecond
    rw [(logoCopy_goesBy named).source, (logoCopy_goesBy otherNamed).source] at sameName
    have destination : (logoCopy setting.toPlaces path).destination =
        (logoCopy setting.toPlaces other).destination :=
      (logoCopy_byName named otherNamed).mpr (Option.some.inj sameName)
    have source := apart.logos path isLogo other isOther (by rw [named, otherNamed, sameName])
    exact (AssetCopy.mk.injEq ..).mpr ⟨source, destination⟩

theorem diagramName {copy : AssetCopy} (isCopy : copy ∈ (convert setting nodes).assets)
    {diagram : RenderedDiagram} (isDiagram : diagram ∈ setting.diagrams)
    (lies : LiesIn setting.assetDirectory diagram.image) :
    Path.fileName? copy.destination ≠ Path.fileName? diagram.image := by
  obtain ⟨path, isLogo, name, named, rfl⟩ := apart.of_mem isCopy
  rw [(logoCopy_goesBy named).fileName?, ← named]
  exact apart.diagrams diagram isDiagram lies path isLogo

end NamesApart

end Logos

def apartNames : Setting where
  output := "out"
  diagrams := [⟨"diagram-0", "out/diagrams/diagram-0.png"⟩]
  style := { header := some { left := some "{logo:a/x.png}"
                              right := some "{logo:b/y.png} {logo:a/x.png}" } }

/-- Logos that meet: two with one base name, one with the name of a diagram, two without base names
of which one is absolute, and one that lies where it is copied to. -/
def meeting : Setting where
  output := "/out"
  diagrams := [⟨"diagram-0", "/out/diagrams/diagram-0.png"⟩]
  style := { header := some { left := some "{logo:a/x.png}{logo:b/x.png}"
                              center := some "{logo:diagram-0.png}"
                              right := some "{logo:..}{logo:/out/diagrams/..}" }
             footer := some { center := some "{logo:/out/diagrams/y.png}" } }

def bare : Machine where
  environment := []
  working := []
  execute _ _ := return .error .notFound

def meetingFiles : FileTree :=
  let files := [("a/x.png", 1), ("b/x.png", 2), ("diagram-0.png", 3),
    ("out/diagrams/diagram-0.png", 4), ("out/diagrams/y.png", 5)]
  files.foldl (fun tree (path, content) =>
    tree.place (Path.segments (String.toList path)) (.file [content] false)) {}

def meetingFilesAfter : FileTree :=
  AssetCopy.filesAfter bare (convert meeting []).assets meetingFiles

end Compositor.Markup

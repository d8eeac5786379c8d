import Compositor.Proofs.Document.WellFormed
import Compositor.Proofs.Markup.Block
import Compositor.Proofs.Text.Literal
import Compositor.Proofs.Text.Replacing

/-! The addresses of links and images. They are quoted in the string literals that they stand in, so
each is read back from its literal, and the literal ends where it was closed. -/

namespace Compositor.Markup

open Node Text

/-! Quoting. -/

/-- Backslashes are doubled before any quote gets a backslash of its own. -/
theorem quoteText_eq (value : Text) :
    quoteText value = replaceAll ['"'] ['\\', '"'] (replaceAll ['\\'] ['\\', '\\'] value) := by
  rw [replaceAll_character, replaceAll_character, List.flatMap_assoc, quoteText]
  congr 1
  funext character
  unfold quoteCharacter
  by_cases backslash : character = '\\'
  · subst backslash
    rfl
  by_cases quote : character = '"'
  · subst quote
    rfl
  · simp [backslash, quote]

/-- The other way round, the backslash of a quote is doubled, and the quote is bare again. -/
example : replaceAll ['\\'] ['\\', '\\'] (replaceAll ['"'] ['\\', '"'] ['"']) = ['\\', '\\', '"'] :=
  rfl

theorem readLiteral?_special {character : Char} (special : character = '\\' ∨ character = '"')
    (text : Text) :
    readLiteral? (quoteCharacter character ++ text) =
      (readLiteral? text).map fun (value, after) => (character :: value, after) := by
  rw [quoteCharacter, if_pos special]
  rfl

theorem readLiteral?_quoteText (value after : Text) :
    readLiteral? (quoteText value ++ '"' :: after) = some (value, after) := by
  induction value with
  | nil => rfl
  | cons character value ih =>
      have quoted : quoteText (character :: value) ++ '"' :: after =
          quoteCharacter character ++ (quoteText value ++ '"' :: after) := by
        rw [quoteText, List.flatMap_cons, List.append_assoc, ← quoteText]
      rw [quoted]
      by_cases special : character = '\\' ∨ character = '"'
      · rw [readLiteral?_special special, ih]
        rfl
      · obtain ⟨notBackslash, notQuote⟩ := not_or.mp special
        rw [quoteCharacter, if_neg special, List.singleton_append,
          readLiteral?_cons notQuote notBackslash, ih]
        rfl

/-! Literals that stand in a text one after the other, with their values quoted. -/

def quoted (literal : Literal) : Text :=
  literal.opening ++ quoteText literal.value ++ '"' :: literal.closing

/-- The literals stand in the markup in this order. Whatever follows the markup, each of them reads
as its value, up to the quote that was written behind it. -/
def QuotedInOrder : (literals : List Literal) → (markup : Text) → Prop
  | [], _ => True
  | literal :: literals, markup =>
      ∃ before after, markup = before ++ quoted literal ++ after ∧
        (∀ following,
          readLiteral? (quoteText literal.value ++ '"' :: (literal.closing ++ after ++ following)) =
            some (literal.value, literal.closing ++ after ++ following)) ∧
        QuotedInOrder literals after

theorem quotedInOrder_of_occurs {literals : List Literal} {markup : Text}
    (occurs : OccursInOrder (literals.map quoted) markup) : QuotedInOrder literals markup := by
  induction literals generalizing markup with
  | nil => trivial
  | cons literal literals ih =>
      obtain ⟨before, after, shape, rest⟩ := occurs
      exact ⟨before, after, shape, fun _ => readLiteral?_quoteText _ _, ih rest⟩

/-! The literals of a tree. -/

def linkLiteral (url : Text) : Literal where
  opening := "#link(\""
  value := url
  closing := ")["

def imageLiteral (url : Text) : Literal where
  opening := "image(\""
  value := url
  closing := "),\n  caption: ["

def addressLiteral? : Node → Option Literal
  | .link url _ => some (linkLiteral url)
  | .image url _ => some (imageLiteral url)
  | _ => none

def addressLiterals (nodes : List Node) : List Literal :=
  (preorderAll nodes).filterMap addressLiteral?

theorem preorder_addressLiterals (node : Node) :
    node.preorder.filterMap addressLiteral? =
      (addressLiteral? node).toList ++ addressLiterals node.children := by
  rw [preorder_eq, List.filterMap_cons]
  cases addressLiteral? node <;> rfl

theorem occurs_flatMap {markup : Node → Text} (nodes : List Node)
    (each : ∀ node ∈ nodes,
      OccursInOrder ((node.preorder.filterMap addressLiteral?).map quoted) (markup node)) :
    OccursInOrder ((addressLiterals nodes).map quoted) (nodes.flatMap markup) := by
  rw [addressLiterals, preorderAll_eq, List.filterMap_flatMap, List.map_flatMap]
  exact OccursInOrder.flatMap each

theorem link_quoted (url : Text) (children : List Node) :
    inline (.link url children) =
      quoted (linkLiteral url) ++ inlines children ++ ("]" : Text) := by
  have closing : ("\")[" : Text) = '"' :: (")[" : Text) := by decide
  unfold inline quoted linkLiteral
  rw [closing]

theorem imageFigure_quoted (url alt : Text) :
    imageFigure url alt =
      ("#figure(\n  " : Text) ++ quoted (imageLiteral url) ++ (escapeText alt ++ "]\n)\n\n") := by
  have opening : ("#figure(\n  image(\"" : Text) =
      ("#figure(\n  " : Text) ++ ("image(\"" : Text) := by decide
  have closing : ("\"),\n  caption: [" : Text) = '"' :: ("),\n  caption: [" : Text) := by decide
  unfold imageFigure quoted imageLiteral
  rw [opening, closing]
  simp only [List.append_assoc, List.cons_append]

theorem inline_occurs {node : Node} (formed : isInline node = true) :
    OccursInOrder ((node.preorder.filterMap addressLiteral?).map quoted) (inline node) := by
  induction node using Node.childInduction with
  | step node ih =>
      have below (areFormed : areInline node.children = true) :
          OccursInOrder ((addressLiterals node.children).map quoted) (inlines node.children) := by
        rw [areInline_iff] at areFormed
        rw [inlines_eq]
        exact occurs_flatMap _ fun child member => ih child member (areFormed child member)
      rw [preorder_addressLiterals, List.map_append]
      cases node with
      | link url children =>
          rw [link_quoted]
          exact ((OccursInOrder.self (quoted (linkLiteral url))).append (below formed)).extend _
      | image url alt =>
          change OccursInOrder [quoted (imageLiteral url)] (imageFigure url alt)
          rw [imageFigure_quoted]
          exact (OccursInOrder.self _).within _ _
      | emphasis children => exact (below formed).within _ _
      | strong children => exact (below formed).within _ _
      | strikethrough children => exact (below formed).within _ _
      | text _ | inlineCode _ | inlineMath _ | lineBreak | raw _ => trivial
      | _ => simp [isInline] at formed

/-- Every address of a link or an image, whatever its characters are, is read back from the literal
written for it. -/
theorem inlines_addresses {nodes : List Node} (formed : areInline nodes = true) :
    QuotedInOrder (addressLiterals nodes) (inlines nodes) := by
  refine quotedInOrder_of_occurs ?_
  rw [areInline_iff] at formed
  rw [inlines_eq]
  exact occurs_flatMap nodes fun node member => inline_occurs (formed node member)

theorem inlines_addresses_backslashes :
    let nodes : List Node :=
      [.strong [.text "See ", .link "a\\\"b\\\\\"\\" [.image "\"\\\\\\" "alt"]], .text "\")"]
    areInline nodes = true ∧
      (addressLiterals nodes).map (·.value) = ["a\\\"b\\\\\"\\", "\"\\\\\\"].map String.toList ∧
      QuotedInOrder (addressLiterals nodes) (inlines nodes) := by
  intro nodes
  have formed : areInline nodes = true := by decide
  exact ⟨formed, by decide, inlines_addresses formed⟩

end Compositor.Markup

import Compositor.Yaml.Reader
import Compositor.Yaml.Scalar
import Compositor.Yaml.Tree

/-! A YAML text as a value. -/

namespace Compositor.Yaml

def maxDepth : Nat := 128

namespace Tree

mutual
def size : Tree → Nat
  | .alias _ | .scalar _ _ _ => 1
  | .sequence _ items => sizes items + 2
  | .mapping _ entries => entrySizes entries + 2
  | .anchored _ node => size node

def sizes : List Tree → Nat
  | [] => 0
  | item :: items => size item + sizes items

def entrySizes : List (Tree × Tree) → Nat
  | [] => 0
  | (key, value) :: entries => size key + size value + entrySizes entries
end

mutual
def anchors : Tree → List (Nat × Tree)
  | .alias _ | .scalar _ _ _ => []
  | .sequence _ items => itemAnchors items
  | .mapping _ entries => entryAnchors entries
  | .anchored number node => (number, node) :: anchors node

def itemAnchors : List Tree → List (Nat × Tree)
  | [] => []
  | item :: items => anchors item ++ itemAnchors items

def entryAnchors : List (Tree × Tree) → List (Nat × Tree)
  | [] => []
  | (key, value) :: entries => anchors key ++ anchors value ++ entryAnchors entries
end

end Tree

/-- Reading a value spends one of a number of uses of aliases each time. -/
abbrev Resolve := StateT Nat Option

def spendAlias : Resolve Unit := do
  match ← get with
  | 0 => failure
  | uses + 1 => set uses

def distinctEntries? : (entries : List (Value × Value)) → (done : List (Value × Value)) →
    Option (List (Value × Value))
  | [], done => some done.reverse
  | entry :: entries, done =>
      if done.any (Value.same entry.1 ·.1) then none else distinctEntries? entries (entry :: done)

def withTag (tag : Option Text) (value : Value) : Value :=
  match tag.bind localName? with
  | some name => .tagged name value
  | none => value

/-- The node that an alias or an anchored node stands for. An alias names the last node with its
number. -/
def target (anchors : List (Nat × Tree)) : Tree → Resolve Tree
  | .alias number => do
      spendAlias
      match anchors.reverse.lookup number with
      | some node => return node
      | none => failure
  | .anchored _ node => return node
  | node => return node

def resolve (anchors : List (Nat × Tree)) (depth : Nat) (tree : Tree) : Resolve Value := do
  match ← target anchors tree with
  | .scalar tag plain text => taggedValue? tag plain text
  | .sequence tag items =>
      match depth with
      | 0 => failure
      | depth + 1 =>
          let values ← items.mapM (resolve anchors depth)
          return withTag tag (.sequence values)
  | .mapping tag entries =>
      match depth with
      | 0 => failure
      | depth + 1 =>
          let values ← entries.mapM fun (key, value) => do
            return (← resolve anchors depth key, ← resolve anchors depth value)
          let entries ← distinctEntries? values []
          return withTag tag (.mapping entries)
  | .alias _ | .anchored _ _ => failure

def read? (text : Text) : Option Value := do
  let tree ← Tree.ofTokens? (← tokens? text)
  let (value, _) ← resolve tree.anchors maxDepth tree (100 * tree.size)
  some value

end Compositor.Yaml

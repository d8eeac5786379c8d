import Compositor.Markup.Body

/-! The top level of a document, divided into groups. Some groups must not be broken across
pages: what stands between two keep-together markers, and a paragraph with the code block that
follows it. -/

namespace Compositor.Markup

def keepTogetherStart : Text := "<!-- keep-together -->"
def keepTogetherEnd : Text := "<!-- /keep-together -->"

/-- The nodes before and after the end marker that closes `depth + 1` open start markers. -/
def splitAtEnd? : (depth : Nat) → List Node → Option (List Node × List Node)
  | _, [] => none
  | depth, node :: nodes =>
      if node.isMarker keepTogetherStart then
        (splitAtEnd? (depth + 1) nodes).map fun (inner, after) => (node :: inner, after)
      else if node.isMarker keepTogetherEnd then
        match depth with
        | 0 => some ([], nodes)
        | depth + 1 => (splitAtEnd? depth nodes).map fun (inner, after) => (node :: inner, after)
      else (splitAtEnd? depth nodes).map fun (inner, after) => (node :: inner, after)

theorem splitAtEnd?_length {depth : Nat} {nodes inner after : List Node}
    (found : splitAtEnd? depth nodes = some (inner, after)) :
    inner.length + after.length < nodes.length := by
  induction nodes generalizing depth inner with
  | nil => simp [splitAtEnd?] at found
  | cons node nodes ih =>
      simp only [splitAtEnd?] at found
      split at found
      next =>
        simp only [Option.map_eq_some_iff, Prod.mk.injEq, Prod.exists] at found
        obtain ⟨rest, _, found, rfl, rfl⟩ := found
        have := ih found
        simp only [List.length_cons]
        omega
      next =>
        split at found
        next =>
          split at found
          next =>
            simp only [Option.some.injEq, Prod.mk.injEq] at found
            obtain ⟨rfl, rfl⟩ := found
            simp
          next =>
            simp only [Option.map_eq_some_iff, Prod.mk.injEq, Prod.exists] at found
            obtain ⟨rest, _, found, rfl, rfl⟩ := found
            have := ih found
            simp only [List.length_cons]
            omega
        next =>
          simp only [Option.map_eq_some_iff, Prod.mk.injEq, Prod.exists] at found
          obtain ⟨rest, _, found, rfl, rfl⟩ := found
          have := ih found
          simp only [List.length_cons]
          omega

structure Group where
  wrapped : Bool
  nodes : List Node

/-- The nodes as groups. A start marker without its end is raw content like any other. -/
def groups (pairCode : Bool) : List Node → List Group
  | [] => []
  | node :: nodes =>
      match _found : if node.isMarker keepTogetherStart then splitAtEnd? 0 nodes else none with
      | some (inner, after) => ⟨true, inner⟩ :: groups pairCode after
      | none =>
          match nodes with
          | [] => [⟨false, [node]⟩]
          | next :: rest =>
              if pairCode && node.isParagraph && next.isCodeBlock then
                ⟨true, [node, next]⟩ :: groups pairCode rest
              else ⟨false, [node]⟩ :: groups pairCode (next :: rest)
  termination_by nodes => nodes.length
  decreasing_by
    · split at _found
      next =>
        have := splitAtEnd?_length _found
        simp only [List.length_cons]
        omega
      next => simp at _found
    · simp only [List.length_cons]
      omega
    · simp

def groupOpen : Text := "#block(breakable: false)[\n"
def groupClose : Text := "]\n\n"

def Group.wrap (group : Group) (content : Text) : Text :=
  if group.wrapped then groupOpen ++ content ++ groupClose else content

def Group.markup (setting : Setting) (titleMode : Bool) (group : Group) (progress : Progress) :
    Text × Progress :=
  let (content, progress) := blocks setting titleMode group.nodes progress
  (group.wrap content, progress)

def groupsMarkup (setting : Setting) (titleMode : Bool) : List Group → Progress → Text × Progress
  | [], progress => ([], progress)
  | group :: groups, progress =>
      let (first, progress) := group.markup setting titleMode progress
      let (rest, progress) := groupsMarkup setting titleMode groups progress
      (first ++ rest, progress)

def body (setting : Setting) (titleMode : Bool) (nodes : List Node) (progress : Progress) :
    Text × Progress :=
  groupsMarkup setting titleMode
    (groups setting.style.keepCodeWithPrevious (nodes.filter (! ·.isFrontMatter))) progress

end Compositor.Markup

import Compositor.Yaml.Token

/-! The grammar of YAML: tokens as a tree of nodes. Aliases and anchored nodes carry numbers, which
are given out in the order of the anchors. -/

namespace Compositor.Yaml

inductive Tree where
  | alias (anchor : Nat)
  | scalar (tag : Option Text) (plain : Bool) (text : Text)
  | sequence (tag : Option Text) (items : List Tree)
  | mapping (tag : Option Text) (entries : List (Tree × Tree))
  | anchored (anchor : Nat) (node : Tree)
  deriving Inhabited

namespace Tree

def empty : Tree := .scalar none true []

structure Rest where
  tokens : List Token
  names : List (Text × Nat) := []
  handles : List (Text × Text) := []

abbrev Parse := StateT Rest Option

def peek? : Parse (Option Token) := do return (← get).tokens.head?

def pass : Parse Unit := modify fun rest => { rest with tokens := rest.tokens.drop 1 }

def accept (token : Token) : Parse Bool := do
  if (← peek?) = some token then
    pass
    return true
  else return false

def expect (token : Token) : Parse Unit := do if !(← accept token) then failure

def isNext (tokens : List Token) : Parse Bool := do
  match ← peek? with
  | some token => return tokens.contains token
  | none => return false

/-- Gives the name the next number; an alias finds the last number that its name was given. Numbers
count names, so that a name used again shares its number with the next new one. -/
def nameAnchor (name : Text) : Parse Nat := do
  let rest ← get
  let number := rest.names.length
  set { rest with names := (name, number) :: rest.names.filter (·.1 != name) }
  return number

def findAnchor (name : Text) : Parse Nat := do
  match (← get).names.lookup name with
  | some number => return number
  | none => failure

def resolveTag (handle suffix : Text) : Parse Text := do
  if handle.isEmpty then return suffix
  match (← get).handles.lookup handle with
  | some replacement => return replacement ++ suffix
  | none => failure

structure Properties where
  anchor : Option Text := none
  tag : Option Text := none

def Properties.isEmpty (properties : Properties) : Bool :=
  properties.anchor.isNone && properties.tag.isNone

def readTag : Parse (Option Text) := do
  match ← peek? with
  | some (.tag handle suffix) =>
      pass
      return some (← resolveTag handle suffix)
  | _ => return none

def readAnchor : Parse (Option Text) := do
  match ← peek? with
  | some (.anchor name) =>
      pass
      return some name
  | _ => return none

def readProperties : Parse Properties := do
  match ← readAnchor with
  | some name => return ⟨some name, ← readTag⟩
  | none =>
      match ← readTag with
      | some tag => return ⟨← readAnchor, some tag⟩
      | none => return {}

structure Place where
  block : Bool
  /-- Whether a block sequence may start without indentation of its own. -/
  indentless : Bool := false

mutual
/-- Reads a node; the anchor gets its number before those inside the node. -/
def node (place : Place) : (fuel : Nat) → Parse Tree
  | 0 => failure
  | fuel + 1 => do
      if let some (.alias name) ← peek? then
        pass
        return .alias (← findAnchor name)
      let properties ← readProperties
      match properties.anchor with
      | some name =>
          let number ← nameAnchor name
          return .anchored number (← content place properties fuel)
      | none => content place properties fuel

def content (place : Place) (properties : Properties) : (fuel : Nat) → Parse Tree
  | 0 => failure
  | fuel + 1 => do
      match ← peek? with
      | some (.scalar plain text) =>
          pass
          return .scalar properties.tag plain text
      | some .flowSequenceStart =>
          pass
          return .sequence properties.tag (← flowItems true fuel)
      | some .flowMappingStart =>
          pass
          return .mapping properties.tag (← flowEntries true fuel)
      | token =>
          if place.indentless && token = some .blockEntry then
            return .sequence properties.tag (← indentlessItems fuel)
          else if place.block && token = some .blockSequenceStart then
            pass
            return .sequence properties.tag (← blockItems fuel)
          else if place.block && token = some .blockMappingStart then
            pass
            return .mapping properties.tag (← blockEntries fuel)
          else if properties.isEmpty then failure
          else return .scalar properties.tag true []

def nodeBefore (place : Place) (ends : List Token) : (fuel : Nat) → Parse Tree
  | 0 => failure
  | fuel + 1 => do if ← isNext ends then return empty else node place fuel

def valueBefore (place : Place) (ends : List Token) : (fuel : Nat) → Parse Tree
  | 0 => failure
  | fuel + 1 => do if ← accept .value then nodeBefore place ends fuel else return empty

def blockItems : (fuel : Nat) → Parse (List Tree)
  | 0 => failure
  | fuel + 1 => do
      if ← accept .blockEntry then
        let item ← nodeBefore ⟨true, false⟩ [.blockEntry, .blockEnd] fuel
        return item :: (← blockItems fuel)
      else
        expect .blockEnd
        return []

def indentlessItems : (fuel : Nat) → Parse (List Tree)
  | 0 => failure
  | fuel + 1 => do
      if ← accept .blockEntry then
        let item ← nodeBefore ⟨true, false⟩ [.blockEntry, .key, .value, .blockEnd] fuel
        return item :: (← indentlessItems fuel)
      else return []

def blockEntries : (fuel : Nat) → Parse (List (Tree × Tree))
  | 0 => failure
  | fuel + 1 => do
      if ← accept .key then
        let ends : List Token := [.key, .value, .blockEnd]
        let key ← nodeBefore ⟨true, true⟩ ends fuel
        let value ← valueBefore ⟨true, true⟩ ends fuel
        return (key, value) :: (← blockEntries fuel)
      else
        expect .blockEnd
        return []

/-- Reads the items of a flow sequence after the first ones; an item with a key is a mapping of
one entry. -/
def flowItems (first : Bool) : (fuel : Nat) → Parse (List Tree)
  | 0 => failure
  | fuel + 1 => do
      if ← accept .flowSequenceEnd then return []
      if !first then expect .flowEntry
      if ← accept .key then
        let key ← pairKey fuel
        let value ← valueBefore ⟨false, false⟩ [.flowEntry, .flowSequenceEnd] fuel
        return .mapping none [(key, value)] :: (← flowItems false fuel)
      else if ← accept .flowSequenceEnd then return []
      else
        let item ← node ⟨false, false⟩ fuel
        return item :: (← flowItems false fuel)

/-- Reads the key of a single pair. Where none is written the token after it is lost. -/
def pairKey : (fuel : Nat) → Parse Tree
  | 0 => failure
  | fuel + 1 => do
      if ← isNext [.value, .flowEntry, .flowSequenceEnd] then
        pass
        return empty
      else node ⟨false, false⟩ fuel

def flowEntries (first : Bool) : (fuel : Nat) → Parse (List (Tree × Tree))
  | 0 => failure
  | fuel + 1 => do
      if ← accept .flowMappingEnd then return []
      if !first then expect .flowEntry
      if ← accept .key then
        let key ← nodeBefore ⟨false, false⟩ [.value, .flowEntry, .flowMappingEnd] fuel
        let value ← valueBefore ⟨false, false⟩ [.flowEntry, .flowMappingEnd] fuel
        return (key, value) :: (← flowEntries false fuel)
      else if ← accept .flowMappingEnd then return []
      else
        let key ← node ⟨false, false⟩ fuel
        return (key, empty) :: (← flowEntries false fuel)
end

/-- Reads the directives before a document: one version that is known, and each handle once. -/
def readDirectives (version : Bool) : (tokens : List Token) → Parse Unit
  | .version major minor :: tokens => do
      if version || major ≠ 1 || (minor ≠ 1 && minor ≠ 2) then failure
      pass
      readDirectives true tokens
  | .tagDirective handle replacement :: tokens => do
      if (← get).handles.any (·.1 == handle) then failure
      pass
      modify fun rest => { rest with handles := (handle, replacement) :: rest.handles }
      readDirectives version tokens
  | _ => return ()

def standardHandles : List (Text × Text) :=
  [("!".toList, "!".toList), ("!!".toList, "tag:yaml.org,2002:".toList)]

def addStandardHandles : Parse Unit :=
  modify fun rest => { rest with handles := rest.handles ++ standardHandles }

def isDirective : Token → Bool
  | .version _ _ | .tagDirective _ _ => true
  | _ => false

/-- Reads the node of a document. Only after its start is marked may it be empty. -/
def document (fuel : Nat) : Parse Tree := do
  let tokens := (← get).tokens
  if tokens.head?.any isDirective || tokens.head? = some .documentStart then
    readDirectives false tokens
    addStandardHandles
    expect .documentStart
    let next ← peek?
    if next.isNone || next.any isDirective || next = some .documentStart ||
        next = some .documentEnd then
      return empty
    else node ⟨true, false⟩ fuel
  else
    addStandardHandles
    node ⟨true, false⟩ fuel

def ofTokens? (tokens : List Token) : Option Tree :=
  if tokens.isEmpty then some empty
  else
    match document (8 * tokens.length + 8) { tokens := tokens } with
    | some (tree, rest) => if rest.tokens.all (· == .documentEnd) then some tree else none
    | none => none

end Tree
end Compositor.Yaml

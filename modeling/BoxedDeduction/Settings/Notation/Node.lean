import BoxedDeduction.Settings.Notation.Tag
import BoxedDeduction.Settings.Notation.Token

/-!
# Nodes of settings

The tokens of settings describe nodes: texts, lists and objects, each with a tag.
Nodes have numbers, by which lists and objects hold them. A node may have a name,
and a reference stands for the node with that name, also inside this node. The
text of settings holds at most one document.
-/

namespace BoxedDeduction

/-- The content of a node. -/
inductive NodeContent where
  /-- A text. -/
  | text (text : String)
  /-- A list of nodes. -/
  | list (items : List Nat)
  /-- Pairs of nodes, keys and their values. -/
  | object (pairs : List (Nat × Nat))

/-- A node of settings. -/
structure SettingNode where
  /-- What the node stands for. -/
  tag : SettingTag
  /-- The content of the node. -/
  content : NodeContent

/-- Nodes by their numbers. -/
abbrev SettingNodes := Array SettingNode

/-- The nodes of a document, of which one is the outermost. -/
structure SettingDocument where
  /-- The nodes. -/
  nodes : SettingNodes
  /-- The number of the outermost node. -/
  root : Nat

/-- The state of reading nodes. -/
structure NodeState where
  /-- The tokens that are left. -/
  tokens : List SettingToken
  /-- What stands behind the tokens: the end of the text, or what ends the work. -/
  fault : Option NotationFault
  /-- The nodes so far. -/
  nodes : SettingNodes := #[]
  /-- The numbers of the nodes with names. -/
  named : List (String × Nat) := []
  /-- The short forms of tags. -/
  handles : List (String × String) := []

/-- A step of reading nodes. -/
abbrev NodeReader (α : Type) := StateT NodeState (Except NotationFault) α

namespace SettingDocument

/-- The tag that leaves the kind of a node open. -/
def openTag : String := "!"

/-- The short forms of tags that need no instruction. -/
def usualHandles : List (String × String) := [("!", "!"), ("!!", SettingTag.base)]

/-- The next token, which stays, unless the end of the text is reached. -/
def peek : NodeReader (Option SettingToken) := do
  let state ← get
  match state.tokens, state.fault with
  | token :: _, _ => return some token
  | [], none => return none
  | [], some cause => throw cause

/-- Leave the next token behind. -/
def drop : NodeReader Unit := modify fun state => { state with tokens := state.tokens.drop 1 }

/-- Leave the next token behind if it is a given one. -/
def accept (token : SettingToken) : NodeReader Bool := do
  if (← peek) = some token then
    drop
    return true
  else return false

/-- Leave the next token behind, which must be a given one. -/
def expect (token : SettingToken) : NodeReader Unit := do
  unless ← accept token do throw .badStructure

/-- Whether the next token is one of several. -/
def nextIsOf (tokens : List SettingToken) : NodeReader Bool := do
  return (← peek).any (tokens.contains ·)

/-! ## Names and tags -/

/-- The name in front of a node, if there is one. -/
def readName : NodeReader (Option String) := do
  match ← peek with
  | some (.anchor name) =>
    drop
    return some name
  | _ => return none

/-- The tag in front of a node, if there is one, not yet resolved. -/
def readTag : NodeReader (Option (Option String × String)) := do
  match ← peek with
  | some (.tag handle suffix) =>
    drop
    return some (handle, suffix)
  | _ => return none

/-- The tag that is meant by a short form. -/
def resolveTag : Option (Option String × String) → NodeReader (Option String)
  | none => return none
  | some (none, suffix) => return some suffix
  | some (some handle, suffix) => do
    match (← get).handles.lookup handle with
    | some meaning => return some (meaning ++ suffix)
    | none => throw .badStructure

/-- Add a node. The result is its number. -/
def add (node : SettingNode) : NodeReader Nat :=
  modifyGet fun state => (state.nodes.size, { state with nodes := state.nodes.push node })

/-- Add a node under its name, if it has one. No two nodes have the same name. -/
def addNamed (name : Option String) (node : SettingNode) : NodeReader Nat := do
  match name with
  | none => add node
  | some name =>
    if ((← get).named.lookup name).isSome then throw .badReference
    let number ← add node
    modify fun state => { state with named := (name, number) :: state.named }
    return number

/-- Give a node its content. -/
def fill (number : Nat) (content : NodeContent) : NodeReader Unit :=
  modify fun state =>
    { state with nodes := state.nodes.modify number fun node => { node with content := content } }

/-- The number of the node with a name. -/
def resolveName (name : String) : NodeReader Nat := do
  match (← get).named.lookup name with
  | some number => return number
  | none => throw .badReference

/-- The tag that a tag in the text stands for, unless it leaves the kind of the node open. -/
def given? (tag : Option String) : Option SettingTag :=
  (tag.filter (· ≠ openTag)).map SettingTag.ofName

/-- A node that is a text. The form of a plain text, or of one with an open tag, suggests a tag. -/
def textNode (tag : Option String) (isPlain : Bool) (text : String) : SettingNode :=
  let suggested := if isPlain ∨ tag = some openTag then SettingTag.ofForm text else .text
  ⟨(given? tag).getD suggested, .text text⟩

/-- A node without content. -/
def addEmpty : NodeReader Nat := add (textNode none true "")

/-- The marks that end a node in an object. -/
def pairMarks : List SettingToken := [.key, .value, .blockEnd]

mutual

/-- Read a node. Outside of brackets it may be indented, and the list behind a key may be as deep
as the key. -/
def readNode (fuel : Nat) (isBlock besideKey : Bool) : NodeReader Nat :=
  match fuel with
  | 0 => throw .badStructure
  | fuel + 1 => do
    if let some (.reference name) ← peek then
      drop
      return ← resolveName name
    let first ← readName
    let given ← readTag
    let second ← if first.isNone && given.isSome then readName else pure none
    let name := first.orElse fun _ => second
    readContent fuel isBlock besideKey name (← resolveTag given)

/-- Read the content of a node behind its name and its tag. -/
def readContent (fuel : Nat) (isBlock besideKey : Bool) (name tag : Option String) :
    NodeReader Nat :=
  match fuel with
  | 0 => throw .badStructure
  | fuel + 1 => do
    let emptyList : SettingNode := ⟨(given? tag).getD .list, .list []⟩
    let emptyObject : SettingNode := ⟨(given? tag).getD .object, .object []⟩
    match ← peek with
    | some .blockItem =>
      if besideKey then
        let number ← addNamed name emptyList
        fill number (.list (← readBesideItems fuel))
        return number
      else withoutContent name tag
    | some (.scalar text isPlain) =>
      drop
      addNamed name (textNode tag isPlain text)
    | some .flowList =>
      drop
      let number ← addNamed name emptyList
      fill number (.list (← readFlowItems fuel true))
      return number
    | some .flowObject =>
      drop
      let number ← addNamed name emptyObject
      fill number (.object (← readFlowPairs fuel true))
      return number
    | some .blockList =>
      if isBlock then
        drop
        let number ← addNamed name emptyList
        fill number (.list (← readItems fuel))
        return number
      else withoutContent name tag
    | some .blockObject =>
      if isBlock then
        drop
        let number ← addNamed name emptyObject
        fill number (.object (← readPairs fuel))
        return number
      else withoutContent name tag
    | _ => withoutContent name tag

/-- A node that has a name or a tag and no content. -/
def withoutContent (name tag : Option String) : NodeReader Nat := do
  if name = none ∧ tag = none then throw .badStructure
  addNamed name (textNode tag true "")

/-- Read the items of an indented list up to its end. -/
def readItems (fuel : Nat) : NodeReader (List Nat) :=
  match fuel with
  | 0 => throw .badStructure
  | fuel + 1 => do
    if ← accept .blockItem then
      let item ← if ← nextIsOf [.blockItem, .blockEnd] then addEmpty else readNode fuel true false
      return item :: (← readItems fuel)
    else
      expect .blockEnd
      return []

/-- Read the items of a list that is as deep as the key in front of it. -/
def readBesideItems (fuel : Nat) : NodeReader (List Nat) :=
  match fuel with
  | 0 => throw .badStructure
  | fuel + 1 => do
    if ← accept .blockItem then
      let item ←
        if ← nextIsOf (.blockItem :: pairMarks) then addEmpty else readNode fuel true false
      return item :: (← readBesideItems fuel)
    else return []

/-- Read the fields of an indented object up to its end. -/
def readPairs (fuel : Nat) : NodeReader (List (Nat × Nat)) :=
  match fuel with
  | 0 => throw .badStructure
  | fuel + 1 => do
    if ← accept .key then
      let key ← if ← nextIsOf pairMarks then addEmpty else readNode fuel true true
      let value ←
        if ← accept .value then
          if ← nextIsOf pairMarks then addEmpty else readNode fuel true true
        else addEmpty
      return (key, value) :: (← readPairs fuel)
    else
      expect .blockEnd
      return []

/-- Read the items of a list in brackets. Items are separated by commas, and one may follow the last
item. A key with a value is an object of its own. -/
def readFlowItems (fuel : Nat) (isFirst : Bool) : NodeReader (List Nat) :=
  match fuel with
  | 0 => throw .badStructure
  | fuel + 1 => do
    if ← accept .flowListEnd then return []
    unless isFirst do expect .flowItem
    if ← accept .key then
      let key ←
        if ← nextIsOf [.value, .flowItem, .flowListEnd] then addEmpty
        else readNode fuel false false
      let value ← readFlowValue fuel .flowListEnd
      let number ← add ⟨.object, .object [(key, value)]⟩
      return number :: (← readFlowItems fuel false)
    else if ← accept .flowListEnd then return []
    else
      let item ← readNode fuel false false
      return item :: (← readFlowItems fuel false)

/-- Read the fields of an object in braces. A key may stand alone. -/
def readFlowPairs (fuel : Nat) (isFirst : Bool) : NodeReader (List (Nat × Nat)) :=
  match fuel with
  | 0 => throw .badStructure
  | fuel + 1 => do
    if ← accept .flowObjectEnd then return []
    unless isFirst do expect .flowItem
    if ← accept .key then
      let key ←
        if ← nextIsOf [.value, .flowItem, .flowObjectEnd] then addEmpty
        else readNode fuel false false
      let value ← readFlowValue fuel .flowObjectEnd
      return (key, value) :: (← readFlowPairs fuel false)
    else if ← accept .flowObjectEnd then return []
    else
      let key ← readNode fuel false false
      return (key, ← addEmpty) :: (← readFlowPairs fuel false)

/-- Read the value behind a key in brackets, if there is one. -/
def readFlowValue (fuel : Nat) (closing : SettingToken) : NodeReader Nat :=
  match fuel with
  | 0 => throw .badStructure
  | fuel + 1 => do
    if ← accept .value then
      if ← nextIsOf [.flowItem, closing] then return ← addEmpty
      else return ← readNode fuel false false
    else return ← addEmpty

end

/-! ## Documents -/

/-- Read the instructions in front of a document. Of versions only the first one is known. -/
def readInstructions (fuel : Nat) (hasVersion : Bool) : NodeReader Unit :=
  match fuel with
  | 0 => throw .badStructure
  | fuel + 1 => do
    match ← peek with
    | some (.version number) =>
      if hasVersion ∨ number ≠ 1 then throw .badStructure
      drop
      readInstructions fuel true
    | some (.tagHandle handle meaning) =>
      if ((← get).handles.lookup handle).isSome then throw .badStructure
      drop
      modify fun state => { state with handles := (handle, meaning) :: state.handles }
      readInstructions fuel hasVersion
    | some .instruction =>
      drop
      readInstructions fuel hasVersion
    | _ => return ()

/-- Leave the ends of documents behind. -/
def dropEnds (fuel : Nat) : NodeReader Unit :=
  match fuel with
  | 0 => return ()
  | fuel + 1 => do if ← accept .documentEnd then dropEnds fuel

/-- Whether the next token is an instruction. -/
def nextIsInstruction : NodeReader Bool := do
  match ← peek with
  | some (.version _) | some (.tagHandle _ _) | some .instruction => return true
  | _ => return false

/-- Read instructions and the mark at the beginning of a document. -/
def readStart (fuel : Nat) : NodeReader Unit := do
  modify fun state => { state with handles := [] }
  readInstructions fuel false
  expect .documentStart
  modify fun state => { state with handles := state.handles ++ usualHandles }

/-- Read a document that begins with instructions or a mark. -/
def readMarked (fuel : Nat) : NodeReader Nat := do
  readStart fuel
  if (← peek).isNone || (← nextIsInstruction) || (← nextIsOf [.documentStart, .documentEnd]) then
    return ← addEmpty
  else readNode fuel true false

/-- Read the only document of a text, whose outermost node is the result. A text without a document
is a node without content. -/
def readDocument (fuel : Nat) : NodeReader Nat := do
  if (← peek).isNone then return ← addEmpty
  let isMarked := (← nextIsInstruction) || (← nextIsOf [.documentStart])
  modify fun state => { state with handles := usualHandles }
  let node ← if isMarked then readMarked fuel else readNode fuel true false
  dropEnds fuel
  if (← peek).isSome then
    readStart fuel
    throw .badReference
  return node

/-- The document that tokens describe. -/
def ofTokens (tokens : Tokenizing.Tokens) : Except NotationFault SettingDocument :=
  match (readDocument (4 * tokens.1.length + 8)).run { tokens := tokens.1, fault := tokens.2 } with
  | .ok (root, state) => .ok ⟨state.nodes, root⟩
  | .error cause => .error cause

end SettingDocument

end BoxedDeduction

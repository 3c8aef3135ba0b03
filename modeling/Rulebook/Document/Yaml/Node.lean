import Rulebook.Document.Yaml.Resolve
import Rulebook.Document.Yaml.Token

/-!
# Nodes of a document

The tokens of a document form one node: a scalar, a sequence or a mapping, each with its tag. An
alias stands for the node of its anchor, which has to come before it; a name may be given once.

* `Node.ofTokens?`: the node of a document, if it has one.
-/

namespace Rulebook

namespace Yaml

/-- A node with its tag. -/
inductive Node where
  | scalar (tag text : String)
  | sequence (tag : String) (items : List Node)
  | mapping (tag : String) (entries : List (Node × Node))

instance : Inhabited Node := ⟨.scalar "" ""⟩

namespace Node

/-- How far the tokens have been read: those that are left, why they end early if they do, what the
handles of tags stand for, and the nodes with a name. -/
structure Reading where
  tokens : List Token
  fault : Option DocumentFault
  handles : List (String × String)
  anchors : List (String × Node)

/-- What reads tokens. -/
abbrev Reader (α : Type) := StateT Reading (Except DocumentFault) α

/-- Something that may not stand here. -/
def refuse {α : Type} : Reader α := throw .malformed

/-- The next token. -/
def peek : Reader Token := do
  let s ← get
  match s.tokens, s.fault with
  | t :: _, _ => pure t
  | [], some e => throw e
  | [], none => refuse

/-- Takes the next token. -/
def take : Reader Unit := modify fun s => { s with tokens := s.tokens.drop 1 }

/-- Takes the next token if it is the given one, and tells whether it was. -/
def accept (t : Token) : Reader Bool := do
  if (← peek) == t then do
    take
    pure true
  else pure false

/-- Takes the given token, which has to come next. -/
def expect (t : Token) : Reader Unit := do
  if !(← accept t) then refuse

/-- Whether the next token is one of some. -/
def isNext (ts : List Token) : Reader Bool := do return ts.contains (← peek)

/-- The node for something left out. -/
def empty : Node := .scalar (standard "null") ""

/-! ## Names and tags -/

/-- What is said in front of a node: its name, and its tag in full. -/
structure Properties where
  anchor : Option String
  tag : Option String

/-- The tag that a handle and a suffix stand for. -/
def fullTag (handle : Option String) (suffix : String) : Reader String := do
  match handle with
  | none => pure suffix
  | some h =>
    match (← get).handles.lookup h with
    | some start => pure (start ++ suffix)
    | none => refuse

/-- A name, if one comes next. -/
def anchor? : Reader (Option String) := do
  match ← peek with
  | .anchor name => do
    take
    pure (some name)
  | _ => pure none

/-- A tag, if one comes next. -/
def tag? : Reader (Option (Option String × String)) := do
  match ← peek with
  | .tag handle suffix => do
    take
    pure (some (handle, suffix))
  | _ => pure none

/-- The name and the tag of a node in either order. -/
def properties : Reader Properties := do
  let before ← anchor?
  let tag ← tag?
  let anchor ← if before.isNone && tag.isSome then anchor? else pure before
  match tag with
  | none => pure ⟨anchor, none⟩
  | some (handle, suffix) => do
    let full ← fullTag handle suffix
    pure ⟨anchor, some full⟩

/-- The tag that a node has unless it is given none, or one that says nothing. -/
def Properties.tagOr (p : Properties) (other : String) : String :=
  match p.tag with
  | none => other
  | some tag => if tag == "!" then other else tag

/-- The tag of a scalar. Only plain ones, and those with a tag that says nothing, have one by their
form. -/
def Properties.scalarTag (p : Properties) (text : String) (isPlain : Bool) : String :=
  match p.tag with
  | some "!" => implicitTag text
  | some tag => tag
  | none => if isPlain then implicitTag text else standard "str"

/-- Gives a node a name. -/
def bindAnchor (name : Option String) (n : Node) : Reader Unit :=
  match name with
  | none => pure ()
  | some name => modify fun s => { s with anchors := (name, n) :: s.anchors }

/-- Refuses a name that is taken. -/
def checkAnchor (name : Option String) : Reader Unit := do
  match name with
  | none => pure ()
  | some name => if ((← get).anchors.lookup name).isSome then refuse

/-- The node of a name. -/
def aliased (name : String) : Reader Node := do
  match (← get).anchors.lookup name with
  | some n => pure n
  | none => refuse

/-- A node of which only properties are given. -/
def bare (p : Properties) : Reader Node := do
  if p.anchor.isNone && p.tag.isNone then refuse
  let n := Node.scalar (p.scalarTag "" true) ""
  bindAnchor p.anchor n
  pure n

/-- Reads a collection whose name is known inside of it already; there it stands for `outline`. -/
def named (p : Properties) (outline : Node) (read : Reader Node) : Reader Node := do
  bindAnchor p.anchor outline
  let n ← read
  bindAnchor p.anchor n
  pure n

/-! ## Nodes -/

/-- Where a node stands: whether blocks may start there, and whether items may stand there without
being indented. -/
structure Position where
  block : Bool
  looseItems : Bool

/-- Inside brackets. -/
def Position.flow : Position := ⟨false, false⟩

/-- In a block. -/
def Position.block_ : Position := ⟨true, false⟩

/-- As a key or a value of a block. -/
def Position.entry : Position := ⟨true, true⟩

mutual

/-- Reads a node. -/
def node : Nat → Position → Reader Node
  | 0, _ => refuse
  | fuel + 1, place => do
    match ← peek with
    | .alias name => do
      take
      aliased name
    | _ => do
      let p ← properties
      checkAnchor p.anchor
      let t ← peek
      if place.looseItems && t == .blockEntry then
        named p (.sequence (p.tagOr (standard "seq")) []) do
          return .sequence (p.tagOr (standard "seq")) (← looseItems fuel [])
      else content fuel place p t

/-- Reads what follows the properties of a node; `t` is the next token. -/
def content : Nat → Position → Properties → Token → Reader Node
  | 0, _, _, _ => refuse
  | fuel + 1, place, p, t => do
    let sequence := p.tagOr (standard "seq")
    let mapping := p.tagOr (standard "map")
    match t with
    | .scalar text isPlain => do
      take
      let n := Node.scalar (p.scalarTag text isPlain) text
      bindAnchor p.anchor n
      pure n
    | .flowSequenceStart => do
      take
      named p (.sequence sequence []) do return .sequence sequence (← flowItems fuel true [])
    | .flowMappingStart => do
      take
      named p (.mapping mapping []) do return .mapping mapping (← flowEntries fuel true [])
    | .blockSequenceStart =>
      if place.block then do
        take
        named p (.sequence sequence []) do return .sequence sequence (← blockItems fuel [])
      else bare p
    | .blockMappingStart =>
      if place.block then do
        take
        named p (.mapping mapping []) do return .mapping mapping (← blockEntries fuel [])
      else bare p
    | _ => bare p

/-- A node, or an empty one where some token shows that it is left out. -/
def nodeUnless : Nat → Position → List Token → Reader Node
  | 0, _, _ => refuse
  | fuel + 1, place, stops => do
    if ← isNext stops then pure empty else node fuel place

/-- The items of a block up to its end. -/
def blockItems : Nat → List Node → Reader (List Node)
  | 0, _ => refuse
  | fuel + 1, made => do
    if ← accept .blockEntry then do
      let n ← nodeUnless fuel .block_ [.blockEntry, .blockEnd]
      blockItems fuel (n :: made)
    else do
      expect .blockEnd
      pure made.reverse

/-- Items that are not indented, up to the first token of another kind. -/
def looseItems : Nat → List Node → Reader (List Node)
  | 0, _ => refuse
  | fuel + 1, made => do
    if ← accept .blockEntry then do
      let n ← nodeUnless fuel .block_ [.blockEntry, .key, .value, .blockEnd]
      looseItems fuel (n :: made)
    else pure made.reverse

/-- The entries of a block up to its end. -/
def blockEntries : Nat → List (Node × Node) → Reader (List (Node × Node))
  | 0, _ => refuse
  | fuel + 1, made => do
    let stops : List Token := [.key, .value, .blockEnd]
    if ← accept .key then do
      let k ← nodeUnless fuel .entry stops
      let v ← if ← accept .value then nodeUnless fuel .entry stops else pure empty
      blockEntries fuel ((k, v) :: made)
    else if (← peek) == .blockEnd then do
      take
      pure made.reverse
    else refuse

/-- The items between brackets. An item with a key is a mapping of one entry. -/
def flowItems : Nat → Bool → List Node → Reader (List Node)
  | 0, _, _ => refuse
  | fuel + 1, isFirst, made => do
    if ← accept .flowSequenceEnd then pure made.reverse
    else do
      if !isFirst then expect .flowEntry
      if ← accept .key then do
        let k ← nodeUnless fuel .flow [.value, .flowEntry, .flowSequenceEnd]
        let v ←
          if ← accept .value then nodeUnless fuel .flow [.flowEntry, .flowSequenceEnd]
          else pure empty
        flowItems fuel false (.mapping (standard "map") [(k, v)] :: made)
      else if ← accept .flowSequenceEnd then pure made.reverse
      else do
        let n ← node fuel .flow
        flowItems fuel false (n :: made)

/-- The entries between braces. A key without its mark has no value. -/
def flowEntries : Nat → Bool → List (Node × Node) → Reader (List (Node × Node))
  | 0, _, _ => refuse
  | fuel + 1, isFirst, made => do
    if ← accept .flowMappingEnd then pure made.reverse
    else do
      if !isFirst then expect .flowEntry
      if ← accept .key then do
        let k ← nodeUnless fuel .flow [.value, .flowEntry, .flowMappingEnd]
        let v ←
          if ← accept .value then nodeUnless fuel .flow [.flowEntry, .flowMappingEnd]
          else pure empty
        flowEntries fuel false ((k, v) :: made)
      else if ← accept .flowMappingEnd then pure made.reverse
      else do
        let k ← node fuel .flow
        flowEntries fuel false ((k, empty) :: made)

end

/-! ## Documents -/

/-- What the handles of tags stand for if nothing is said. -/
def defaultHandles : List (String × String) := [("!", "!"), ("!!", standard "")]

/-- Takes the ends of documents. -/
def skipEnds : Nat → Reader Unit
  | 0 => refuse
  | fuel + 1 => do
    if ← accept .documentEnd then skipEnds fuel

/-- Reads directives. There may be one version, which has to be a first one, and every handle may
be declared once. -/
def directives : Nat → Bool → List (String × String) → Reader (List (String × String))
  | 0, _, _ => refuse
  | fuel + 1, versioned, handles => do
    match ← peek with
    | .directive (.version major) => do
      if versioned || major != 1 then refuse
      take
      directives fuel true handles
    | .directive (.tag handle start) => do
      if (handles.lookup handle).isSome then refuse
      take
      directives fuel versioned ((handle, start) :: handles)
    | .directive .other => do
      take
      directives fuel versioned handles
    | _ => pure handles

/-- The content of a document behind its mark. -/
def marked (fuel : Nat) : Reader Node := do
  match ← peek with
  | .directive _ => pure empty
  | .documentStart => pure empty
  | .documentEnd => pure empty
  | .streamEnd => pure empty
  | _ => node fuel .block_

/-- A document that starts with directives or a mark, or none if there is nothing else. -/
def explicitDocument (fuel : Nat) : Reader (Option Node) := do
  skipEnds fuel
  if (← peek) == .streamEnd then pure none
  else do
    let handles ← directives fuel false []
    modify fun s => { s with handles := handles ++ defaultHandles }
    expect .documentStart
    return some (← marked fuel)

/-- A document, or none if there is nothing. -/
def document (fuel : Nat) : Reader (Option Node) := do
  match ← peek with
  | .directive _ => explicitDocument fuel
  | .documentStart => explicitDocument fuel
  | .streamEnd => pure none
  | _ => return some (← node fuel .block_)

/-- One document and nothing behind it. -/
def single (fuel : Nat) : Reader (Option Node) := do
  let n ← document fuel
  skipEnds fuel
  expect .streamEnd
  pure n

/-- The node of a document, if it has one. -/
def ofTokens? (t : Tokens) : Except DocumentFault (Option Node) :=
  (single (4 * t.tokens.length + 8)).run' ⟨t.tokens, t.fault, defaultHandles, []⟩

end Node

end Yaml

end Rulebook

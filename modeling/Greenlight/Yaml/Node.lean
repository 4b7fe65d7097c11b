import Greenlight.Entries
import Greenlight.Yaml.Tag
import Greenlight.Yaml.Token.Lexer

/-! # YAML nodes

The nodes that the tokens of a document stand for. Every node has its tag and a number. An alias is the
node with its anchor, so a node may stand at several places, and inside itself. -/

namespace Greenlight.Yaml

/-- What a node holds. Other nodes are given by their numbers. -/
inductive Node.Content where
  | scalar (text : String)
  | sequence (items : List Nat)
  | mapping (entries : List (Nat × Nat))
deriving Inhabited

/-- A node with its tag. -/
structure Node where
  tag : String
  content : Node.Content
deriving Inhabited

/-- The nodes of a document by their numbers, and the number of the outermost one. -/
structure Document where
  nodes : Array Node
  root : Nat

namespace Node

/-- What a reader of tokens keeps: the nodes it has met, the numbers of those with an anchor, and the
handles of tags. -/
structure Reader where
  lexer : Lexer
  nodes : Array Node
  anchors : List (String × Nat)
  handles : List (String × String)

/-- A step of a reader. -/
abbrev Step := StateT Reader (Except ReadError)

/-- Fails with a defect of form. -/
def fail {α : Type} (e : FormError) : Step α := throw (.form e)

/-- Reads tokens. -/
def lex {α : Type} (s : Lexer.Step α) : Step α := do
  let r ← get
  let (a, lexer) ← s.run r.lexer
  set { r with lexer }
  return a

/-- The next token. -/
def peek : Step Token := lex Lexer.peek

/-- Passes over the next token. -/
def skip : Step Unit := lex Lexer.skip

/-- Passes over a token if it comes next. -/
def accept (t : Token) : Step Bool := do
  if (← peek) = t then
    skip
    return true
  else return false

/-- Passes over a token that has to come next. -/
def expect (t : Token) : Step Unit := do
  unless ← accept t do fail .unexpectedToken

/-- One of some tokens comes next. -/
def isNext (ts : List Token) : Step Bool := return ts.contains (← peek)

/-- Gives a node the next number. -/
def add (node : Node) : Step Nat :=
  modifyGet fun r => (r.nodes.size, { r with nodes := r.nodes.push node })

/-- Sets what a node holds. -/
def fill (number : Nat) (content : Content) : Step Unit :=
  modify fun r => { r with nodes := r.nodes.modify number fun node => { node with content } }

/-- The node of an entry that is left out. -/
def addAbsent : Step Nat := add ⟨Tag.ofText "", .scalar ""⟩

/-- The properties in front of a node: an anchor and a tag, in either order. -/
def properties : Step (Option String × Option (Option String × String)) := do
  match ← peek with
  | .anchor name =>
    skip
    match ← peek with
    | .tag handle suffix =>
      skip
      return (some name, some (handle, suffix))
    | _ => return (some name, none)
  | .tag handle suffix =>
    skip
    match ← peek with
    | .anchor name =>
      skip
      return (some name, some (handle, suffix))
    | _ => return (none, some (handle, suffix))
  | _ => return (none, none)

/-- The full tag of a property. -/
def fullTag (handle : Option String) (suffix : String) : Step String := do
  match handle with
  | none => return suffix
  | some name =>
    match Entries.get? (← get).handles name with
    | some start => return start ++ suffix
    | none => fail .tag

/-- The tag of a collection: the given one, or the standard one of its kind. -/
def tagOr (given : Option String) (kind : String) : String :=
  match given with
  | none => Tag.standard kind
  | some tag => if tag = "!" then Tag.standard kind else tag

/-- The tag of a scalar: the given one, or the one that its text asks for. Quotes ask for a text. -/
def scalarTag (given : Option String) (text : String) (plain : Bool) : String :=
  match given with
  | none => if plain then Tag.ofText text else Tag.standard "str"
  | some tag => if tag = "!" then Tag.ofText text else tag

/-- A new node, with its anchor. -/
def addAnchored (anchor : Option String) (node : Node) : Step Nat := do
  let known := (← get).anchors
  if anchor.any fun name => (Entries.get? known name).isSome then fail .anchorRepeated
  let number ← add node
  match anchor with
  | some name => modify fun r => { r with anchors := (name, number) :: r.anchors }
  | none => pure ()
  return number

/-- The node with an anchor. -/
def ofAlias (name : String) : Step Nat := do
  match Entries.get? (← get).anchors name with
  | some number => return number
  | none => fail .aliasUnknown

/-- The depth of collections inside each other. -/
def maxDepth : Nat := 488

mutual

/-- The number of a node that lies `depth` levels above the deepest ones that are read. Block collections
may begin it if `block` is set, and entries of a sequence without an indentation of their own if
`unindented` is set. -/
def read (fuel depth : Nat) (block unindented : Bool) : Step Nat :=
  match fuel, depth with
  | 0, _ => fail .unexpectedToken
  | _, 0 => throw .tooDeep
  | fuel + 1, depth + 1 => do
    if let .alias name ← peek then
      skip
      return ← ofAlias name
    let (anchor, property) ← properties
    let tag ← match property with
      | some (handle, suffix) => some <$> fullTag handle suffix
      | none => pure none
    let sequence (items : Step (List Nat)) : Step Nat := do
      let number ← addAnchored anchor ⟨tagOr tag "seq", .sequence []⟩
      fill number (.sequence (← items))
      return number
    let mapping (entries : Step (List (Nat × Nat))) : Step Nat := do
      let number ← addAnchored anchor ⟨tagOr tag "map", .mapping []⟩
      fill number (.mapping (← entries))
      return number
    let next ← peek
    match next with
    | .scalar text plain =>
      skip
      addAnchored anchor ⟨scalarTag tag text plain, .scalar text⟩
    | .flowSequenceStart =>
      sequence do
        skip
        flowItems fuel depth true []
    | .flowMappingStart =>
      mapping do
        skip
        flowEntries fuel depth true []
    | _ =>
      if unindented && next = .blockEntry then sequence (unindentedItems fuel depth [])
      else if block && next = .blockSequenceStart then
        sequence do
          skip
          blockItems fuel depth []
      else if block && next = .blockMappingStart then
        mapping do
          skip
          blockEntries fuel depth []
      else if anchor.isSome || tag.isSome then addAnchored anchor ⟨scalarTag tag "" true, .scalar ""⟩
      else fail .unexpectedToken

/-- A node, or an absent one if one of some tokens comes next. -/
def readUnless (fuel depth : Nat) (block unindented : Bool) (ends : List Token) : Step Nat :=
  match fuel with
  | 0 => fail .unexpectedToken
  | fuel + 1 => do
    if ← isNext ends then addAbsent else read fuel depth block unindented

/-- The value of an entry, which is absent if no value mark comes next. -/
def readValue (fuel depth : Nat) (block unindented : Bool) (ends : List Token) : Step Nat :=
  match fuel with
  | 0 => fail .unexpectedToken
  | fuel + 1 => do
    if ← accept .value then readUnless fuel depth block unindented ends else addAbsent

/-- The items of a block sequence up to its end, behind those found in reverse order. -/
def blockItems (fuel depth : Nat) (found : List Nat) : Step (List Nat) :=
  match fuel with
  | 0 => fail .unexpectedToken
  | fuel + 1 => do
    if ← accept .blockEntry then
      let item ← readUnless fuel depth true false [.blockEntry, .blockEnd]
      blockItems fuel depth (item :: found)
    else
      expect .blockEnd
      return found.reverse

/-- The items of a sequence without an indentation of its own. -/
def unindentedItems (fuel depth : Nat) (found : List Nat) : Step (List Nat) :=
  match fuel with
  | 0 => fail .unexpectedToken
  | fuel + 1 => do
    if ← accept .blockEntry then
      let item ← readUnless fuel depth true false [.blockEntry, .key, .value, .blockEnd]
      unindentedItems fuel depth (item :: found)
    else return found.reverse

/-- The entries of a block mapping up to its end. -/
def blockEntries (fuel depth : Nat) (found : List (Nat × Nat)) : Step (List (Nat × Nat)) :=
  match fuel with
  | 0 => fail .unexpectedToken
  | fuel + 1 => do
    if ← accept .key then
      let key ← readUnless fuel depth true true [.key, .value, .blockEnd]
      let value ← readValue fuel depth true true [.key, .value, .blockEnd]
      blockEntries fuel depth ((key, value) :: found)
    else
      expect .blockEnd
      return found.reverse

/-- The items of a sequence between brackets; an entry with a key is a mapping of its own. -/
def flowItems (fuel depth : Nat) (first : Bool) (found : List Nat) : Step (List Nat) :=
  match fuel with
  | 0 => fail .unexpectedToken
  | fuel + 1 => do
    if ← accept .flowSequenceEnd then return found.reverse
    unless first do expect .flowEntry
    if ← accept .key then
      let key ← readUnless fuel (depth - 1) false false [.value, .flowEntry, .flowSequenceEnd]
      let value ← readValue fuel (depth - 1) false false [.flowEntry, .flowSequenceEnd]
      let item ← add ⟨Tag.standard "map", .mapping [(key, value)]⟩
      flowItems fuel depth false (item :: found)
    else if ← accept .flowSequenceEnd then return found.reverse
    else
      let item ← read fuel depth false false
      flowItems fuel depth false (item :: found)

/-- The entries of a mapping between braces. -/
def flowEntries (fuel depth : Nat) (first : Bool) (found : List (Nat × Nat)) :
    Step (List (Nat × Nat)) :=
  match fuel with
  | 0 => fail .unexpectedToken
  | fuel + 1 => do
    if ← accept .flowMappingEnd then return found.reverse
    unless first do expect .flowEntry
    if ← accept .key then
      let key ← readUnless fuel depth false false [.value, .flowEntry, .flowMappingEnd]
      let value ← readValue fuel depth false false [.flowEntry, .flowMappingEnd]
      flowEntries fuel depth false ((key, value) :: found)
    else if ← accept .flowMappingEnd then return found.reverse
    else
      let key ← read fuel depth false false
      let value ← addAbsent
      flowEntries fuel depth false ((key, value) :: found)

end

/-! ## Documents -/

/-- Handles that every document has. -/
def standardHandles : List (String × String) := [("!", "!"), ("!!", Tag.standard "")]

/-- The directives in front of a document: at most one version, and handles that differ. -/
def directives : Nat → Bool → Step Unit
  | 0, _ => return
  | fuel + 1, versioned => do
    match ← peek with
    | .version major _ =>
      if versioned || major != 1 then fail .directive
      skip
      directives fuel true
    | .handle name start =>
      if (Entries.get? (← get).handles name).isSome then fail .directive
      skip
      modify fun r => { r with handles := (name, start) :: r.handles }
      directives fuel versioned
    | .otherDirective =>
      skip
      directives fuel versioned
    | _ => return

/-- The directives of a document and the mark behind them. -/
def documentStart (fuel : Nat) : Step Unit := do
  modify fun r => { r with handles := [] }
  directives fuel false
  expect .documentStart

/-- Passes over marks that end a document. -/
def skipEnds : Nat → Step Unit
  | 0 => return
  | fuel + 1 => do
    if ← accept .documentEnd then skipEnds fuel

/-- A document begins here, with its mark or with directives. -/
def isMarked : Step Bool := do
  match ← peek with
  | .version .. | .handle .. | .otherDirective | .documentStart => return true
  | _ => return false

/-- A document ends here, at a mark or at the end of the text. -/
def isOver : Step Bool := do
  if ← isMarked then return true else isNext [.documentEnd, .streamEnd]

/-- The outermost node of a text with at most one document. -/
def document (fuel : Nat) : Step (Option Nat) := do
  if ← accept .streamEnd then return none
  let marked ← isMarked
  if marked then documentStart fuel
  modify fun r => { r with handles := r.handles ++ standardHandles }
  let root ← if marked && (← isOver) then addAbsent else read fuel maxDepth true false
  skipEnds fuel
  unless ← accept .streamEnd do
    documentStart fuel
    fail .secondDocument
  return some root

/-- The nodes of a text, if it has a document. -/
def ofSource (s : Source) : Except ReadError (Option Document) := do
  let (root, r) ← (document (4 * s.chars.length + 16)).run ⟨.ofSource s, #[], [], []⟩
  return root.map fun root => ⟨r.nodes, root⟩

end Node

end Greenlight.Yaml

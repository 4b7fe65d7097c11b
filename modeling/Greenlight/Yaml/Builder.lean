import Greenlight.Value
import Greenlight.Yaml.Content
import Greenlight.Yaml.Node

/-! # From nodes to values

A node has one value, however often it is met. Collections are first made empty and filled in the order in
which they were met, so a fault nearer to the root shows before one further away, and a collection can hold
itself. Merge marks in a mapping bring in the entries of other mappings, which stand in front of its own
and give way to them. Both are changes to the nodes, which whatever is read later finds changed. -/

namespace Greenlight.Yaml

/-- The collections that a node can stand for. -/
inductive Shape where
  | list
  | pairs
  | map
  | set
deriving DecidableEq, Repr

/-- The shape that a tag asks for. -/
def Shape.ofTag? (tag : String) : Option Shape :=
  if tag = Tag.standard "seq" then some .list
  else if tag = Tag.standard "omap" ∨ tag = Tag.standard "pairs" then some .pairs
  else if tag = Tag.standard "map" then some .map
  else if tag = Tag.standard "set" then some .set
  else none

/-- A collection of a shape without members. -/
def Shape.emptyCollection : Shape → Value.Collection
  | .list | .pairs => .list []
  | .map => .map []
  | .set => .set []

/-- A collection that waits to be filled. -/
structure Unfilled where
  shape : Shape
  /-- The node that it stands for. -/
  node : Nat
  collection : Nat

/-- What a builder keeps. -/
structure Builder where
  nodes : Array Node
  /-- The number of entries of all mappings. -/
  entryCount : Nat
  /-- The values of nodes by the numbers of these. -/
  values : Array (Option Value.Node)
  graph : Value.Graph
  /-- All collections in the order in which they were met. -/
  unfilled : Array Unfilled

namespace Builder

/-- A step of a builder. -/
abbrev Step := StateT Builder (Except ReadError)

/-- Fails with a defect of form. -/
def fail {α : Type} (e : FormError) : Step α := throw (.form e)

/-- A builder that has met no node. -/
def ofNodes (nodes : Array Node) : Builder where
  nodes
  entryCount := nodes.foldl (fun count node => match node.content with
    | .mapping entries => count + entries.length
    | _ => count) 0
  values := Array.replicate nodes.size none
  graph := #[]
  unfilled := #[]

/-- A node by its number. -/
def nodeAt (number : Nat) : Step Node := return (← get).nodes.getD number default

/-- The entries of a mapping. -/
def entriesOf (number : Nat) : Step (List (Nat × Nat)) := do
  match (← nodeAt number).content with
  | .mapping entries => return entries
  | _ => return []

/-- Changes a node. -/
def change (number : Nat) (f : Node → Node) : Step Unit :=
  modify fun b => { b with nodes := b.nodes.modify number f }

/-- Sets the entries of a mapping. -/
def setEntries (number : Nat) (entries : List (Nat × Nat)) : Step Unit :=
  change number fun node => { node with content := .mapping entries }

/-! ## Merge marks -/

/-- Where a key has a tag. -/
def hasTag (nodes : Array Node) (tag : String) (entry : Nat × Nat) : Bool :=
  (nodes.getD entry.1 default).tag == tag

/-- The source behind the first merge mark, and the entries without it. -/
def cutMerge? (nodes : Array Node) : List (Nat × Nat) → Option (Nat × List (Nat × Nat))
  | [] => none
  | entry :: rest =>
    if hasTag nodes (Tag.standard "merge") entry then some (entry.2, rest)
    else (cutMerge? nodes rest).map fun (source, others) => (source, entry :: others)

/-- Puts merged entries in front of those of a mapping. A value mark among its keys becomes a text. -/
def finishMerge (number : Nat) (merged : List (Nat × Nat)) : Step (List (Nat × Nat)) := do
  let own ← entriesOf number
  own.forM fun (key, _) =>
    change key fun node =>
      if node.tag = Tag.standard "value" then { node with tag := Tag.standard "str" } else node
  unless merged.isEmpty do setEntries number (merged ++ own)
  return merged ++ own

/-- Takes the merge marks out of a mapping, and gives the entries that they bring in. Of several sources
behind one mark the last comes first. Each step removes a mark for good, so `fuel` is the number of marks. -/
def takeMerged : Nat → Nat → Step (List (Nat × Nat))
  | 0, _ => return []
  | fuel + 1, number => do
    match cutMerge? (← get).nodes (← entriesOf number) with
    | none => return []
    | some (source, others) =>
      setEntries number others
      let entriesFrom (source : Nat) : Step (List (Nat × Nat)) := do
        match (← nodeAt source).content with
        | .mapping _ => finishMerge source (← takeMerged fuel source)
        | _ => fail .mergeSource
      let first ← match (← nodeAt source).content with
        | .sequence items => (·.reverse.flatten) <$> items.mapM entriesFrom
        | _ => entriesFrom source
      return first ++ (← takeMerged fuel number)

/-- The entries of a mapping with those merged into it. -/
def mergedEntries (number : Nat) : Step (List (Nat × Nat)) := do
  finishMerge number (← takeMerged ((← get).entryCount + 1) number)

/-! ## Values -/

/-- The text that stands for a node where a scalar is asked for: that of a scalar, or of the entry of
a mapping under a value mark. -/
def scalarText (nodes : Array Node) : Nat → Nat → Except ReadError String
  | 0, _ => .error .tooDeep
  | fuel + 1, number =>
    match (nodes.getD number default).content with
    | .scalar text => .ok text
    | .sequence _ => .error (.form .wrongKind)
    | .mapping entries =>
      match entries.find? (hasTag nodes (Tag.standard "value")) with
      | some (_, value) => scalarText nodes fuel value
      | none => .error (.form .wrongKind)

/-- The datum that a node with a tag of scalars stands for. An undefined number has the node as its origin,
unless it is written as the word for it. -/
def readScalar (number : Nat) (reader : String → Except ReadError Datum) : Step Datum := do
  let nodes := (← get).nodes
  let text ← scalarText nodes (nodes.size + 1) number
  let node := nodes.getD number default
  match node.content with
  | .scalar _ => pure ()
  | _ => if node.tag = Tag.standard "timestamp" then throw .timestampInMapping
  match ← reader text with
  | .float x => return if x.isNaN then .undefined (number + 1) else .float x
  | d => return d

/-- A new collection. -/
def addCollection (c : Value.Collection) : Step Nat :=
  modifyGet fun b => (b.graph.size, { b with graph := b.graph.push c })

/-- The value of a node that is met for the first time. -/
def makeValue (number : Nat) : Step Value.Node := do
  let tag := (← nodeAt number).tag
  match scalarReader? tag, Shape.ofTag? tag with
  | some reader, _ => .datum <$> readScalar number reader
  | none, some shape =>
    let collection ← addCollection shape.emptyCollection
    modify fun b => { b with unfilled := b.unfilled.push ⟨shape, number, collection⟩ }
    return .collection collection
  | none, none => fail .tagUnknown

/-- The value of a node. -/
def value (number : Nat) : Step Value.Node := do
  match (← get).values.getD number none with
  | some v => return v
  | none =>
    let v ← makeValue number
    modify fun b => { b with values := b.values.setIfInBounds number (some v) }
    return v

/-- The datum that a node stands for as a key. -/
def keyOf (number : Nat) : Step Datum := do
  match ← value number with
  | .datum d => return d
  | .collection _ => fail .keyNotHashable

/-- Puts an entry at the place of its key, or in front of all if the key is new. -/
def insertEntry (key : Datum) (item : Value.Node) (entries : List (Datum × Value.Node)) :
    List (Datum × Value.Node) :=
  if entries.any (·.1.same key) then
    entries.map fun (k, v) => (k, if k.same key then item else v)
  else (key, item) :: entries

/-- The entries of a mapping node, behind those that are found already, in reverse order. -/
def addEntries (found : List (Datum × Value.Node)) :
    List (Nat × Nat) → Step (List (Datum × Value.Node))
  | [] => return found
  | (key, item) :: rest => do
    let key ← keyOf key
    let item ← value item
    addEntries (insertEntry key item found) rest

/-- The entries of a mapping node. -/
def mapEntries (number : Nat) : Step (List (Datum × Value.Node)) := do
  match (← nodeAt number).content with
  | .mapping _ => List.reverse <$> (do addEntries [] (← mergedEntries number))
  | _ => fail .wrongKind

/-- The pair that a mapping node with one entry stands for. -/
def pairOf (number : Nat) : Step Value.Node := do
  match ← entriesOf number with
  | [(key, item)] =>
    let first ← value key
    let second ← value item
    return .collection (← addCollection (.pair first second))
  | _ => fail .wrongKind

/-- Something for each item of a sequence node. -/
def forItems (number : Nat) (f : Nat → Step Value.Node) : Step Value.Collection := do
  match (← nodeAt number).content with
  | .sequence items => .list <$> items.mapM f
  | _ => fail .wrongKind

/-- The members of a collection that was made empty. -/
def filled (u : Unfilled) : Step Value.Collection :=
  match u.shape with
  | .list => forItems u.node value
  | .pairs => forItems u.node pairOf
  | .map => .map <$> mapEntries u.node
  | .set => do return .set ((← mapEntries u.node).map (·.1))

/-- Fills the collections from a place on, with those that are met on the way. -/
def fillFrom : Nat → Nat → Step Unit
  | 0, _ => return
  | fuel + 1, place => do
    match (← get).unfilled[place]? with
    | none => return
    | some u =>
      let collection ← filled u
      modify fun b => { b with graph := b.graph.setIfInBounds u.collection collection }
      fillFrom fuel (place + 1)

/-- The value of a document. Every node makes one collection at most. -/
def read (d : Document) : Except ReadError Value := do
  let build : Step Value.Node := do
    let root ← value d.root
    fillFrom (d.nodes.size + 1) 0
    return root
  let (root, b) ← build.run (ofNodes d.nodes)
  return ⟨b.graph, root⟩

end Builder

end Greenlight.Yaml

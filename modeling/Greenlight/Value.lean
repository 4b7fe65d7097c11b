import Greenlight.Value.SetOrder

/-! # Configuration values

What a configuration file can hold under a key: data and collections of values. A collection may stand at
several places, and inside itself, so a value is a node of a graph whose collections have numbers.
`content` shows one level of a value, `shown` all of it; a collection that is met inside itself is cut
off there. -/

namespace Greenlight

/-- A place that holds a value: a datum, or a collection by its number. -/
inductive Value.Node where
  | datum (d : Datum)
  | collection (number : Nat)
deriving Inhabited

/-- A collection. Mappings keep their entries in the order in which the keys first came. -/
inductive Value.Collection where
  | pair (first second : Value.Node)
  | list (items : List Value.Node)
  | set (members : List Datum)
  | map (entries : List (Datum × Value.Node))
deriving Inhabited

/-- Collections by their numbers. -/
abbrev Value.Graph := Array Value.Collection

/-- A value of a configuration file. -/
structure Value where
  graph : Value.Graph
  node : Value.Node

namespace Value

/-- One level of a value. -/
inductive Content where
  | datum (d : Datum)
  | pair (first second : Value)
  | list (items : List Value)
  | set (members : List Datum)
  | map (entries : List (Datum × Value))

/-- The content of a value. A number without a collection stands for nothing. -/
def content (v : Value) : Content :=
  match v.node with
  | .datum d => .datum d
  | .collection n =>
    match v.graph[n]? with
    | none => .datum .null
    | some (.pair a b) => .pair ⟨v.graph, a⟩ ⟨v.graph, b⟩
    | some (.list items) => .list (items.map fun item => ⟨v.graph, item⟩)
    | some (.set members) => .set members
    | some (.map entries) => .map (entries.map fun (key, item) => (key, ⟨v.graph, item⟩))

/-! ## Building values -/

/-- A value without parts. -/
def ofDatum (d : Datum) : Value := ⟨#[], .datum d⟩

/-- The value of a text. -/
def text (s : String) : Value := ofDatum (.text s)

/-- The value that stands for nothing. -/
def null : Value := ofDatum .null

instance : Inhabited Value := ⟨null⟩

/-- A node behind `n` more collections. -/
def Node.raised (n : Nat) : Node → Node
  | .datum d => .datum d
  | .collection k => .collection (n + k)

/-- A collection behind `n` more collections. -/
def Collection.raised (n : Nat) : Collection → Collection
  | .pair a b => .pair (a.raised n) (b.raised n)
  | .list items => .list (items.map (·.raised n))
  | .set members => .set members
  | .map entries => .map (entries.map fun (key, item) => (key, item.raised n))

/-- Puts the collections of values behind those of a graph. -/
def Graph.absorb (g : Graph) : List Value → Graph × List Node
  | [] => (g, [])
  | v :: rest =>
    let (all, nodes) := Graph.absorb (g ++ v.graph.map (·.raised g.size)) rest
    (all, v.node.raised g.size :: nodes)

/-- The list of some values. -/
def list (items : List Value) : Value :=
  let (g, nodes) := Graph.absorb #[] items
  ⟨g.push (.list nodes), .collection g.size⟩

/-- The mapping with some entries. -/
def map (entries : List (Datum × Value)) : Value :=
  let (g, nodes) := Graph.absorb #[] (entries.map (·.2))
  ⟨g.push (.map ((entries.map (·.1)).zip nodes)), .collection g.size⟩

/-! ## Looking into values -/

/-- Empty collections hold no more than the data that do not hold. -/
def holds (v : Value) : Bool :=
  match v.content with
  | .datum d => d.holds
  | .pair _ _ => true
  | .list items => !items.isEmpty
  | .set members => !members.isEmpty
  | .map entries => !entries.isEmpty

/-- The text that a value is, if it is one. -/
def text? (v : Value) : Option String :=
  match v.node with
  | .datum (.text s) => some s
  | _ => none

/-- Members of the collections that are read as a list. -/
def items? (v : Value) : Option (List Value) :=
  match v.content with
  | .list items => some items
  | .pair a b => some [a, b]
  | _ => none

/-- The entry of a text key. -/
def lookup (entries : List (Datum × Value)) (key : String) : Option Value :=
  (entries.find? fun e => match e.1 with
    | .text k => k == key
    | _ => false).map (·.2)

/-! ## Values as text -/

/-- What is shown in place of a collection inside itself. -/
def Collection.cutOff : Collection → String
  | .pair _ _ => "(...)"
  | .list _ => "[...]"
  | .set _ => "set(...)"
  | .map _ => "\x7b...\x7d"

/-- A node as it is shown inside the collections that are `opened`. Since these are different ones, their
number bounds the depth. -/
def Graph.shown (g : Graph) : Nat → List Nat → Node → Except NumberError String
  | _, _, .datum d => d.shown
  | 0, _, .collection _ => .ok "..."
  | depth + 1, opened, .collection n =>
    match g[n]? with
    | none => Datum.null.shown
    | some c =>
      if opened.contains n then .ok c.cutOff
      else
        let inner := Graph.shown g depth (n :: opened)
        match c with
        | .pair a b => return "(" ++ (← inner a) ++ ", " ++ (← inner b) ++ ")"
        | .list items => return "[" ++ Text.join ", " (← items.mapM inner) ++ "]"
        | .set members =>
          if members.isEmpty then return "set()"
          else return "\x7b" ++ Text.join ", " (← (Datum.arranged members).mapM Datum.shown) ++ "\x7d"
        | .map entries => do
          let parts ← entries.mapM fun (key, item) => do
            return (← key.shown) ++ ": " ++ (← inner item)
          return "\x7b" ++ Text.join ", " parts ++ "\x7d"

/-- A value as it is shown inside messages. -/
def shown (v : Value) : Except NumberError String := v.graph.shown (v.graph.size + 1) [] v.node

/-- A value as text: texts as they are, dates and moments in digits, all else as it is shown. -/
def toText (v : Value) : Except NumberError String :=
  match v.node with
  | .datum d => d.toText
  | .collection _ => v.shown

/-! ## Values as numbers -/

/-- The double that a value stands for. -/
def toFloat (v : Value) : Except NumberError Float :=
  match v.content with
  | .datum d => d.toFloat
  | _ => .error .wrongType

/-- The whole number that a value stands for. -/
def toInt (v : Value) : Except NumberError Int :=
  match v.content with
  | .datum d => d.toInt
  | _ => .error .wrongType

end Value

end Greenlight

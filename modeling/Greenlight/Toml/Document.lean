import Greenlight.Toml.Error

/-! # Growing documents

A document grows statement by statement. A table may be declared once, a value that is written in one
piece never grows, and of an array of tables only the last one does. -/

namespace Greenlight.Toml

/-- The names on the way to a value. -/
abbrev Key := List String

/-- Changes the table behind a key. Tables that are missing on the way are made; of an array of tables
the last one is taken if `intoArrays` says so. -/
def Table.change (intoArrays : Bool) (f : Table → Except FormError Table) (table : Table) :
    Key → Except FormError Table
  | [] => f table
  | name :: key =>
    match Entries.get? table name with
    | none => do return table ++ [(name, .table (← Table.change intoArrays f [] key))]
    | some (.table inner) => do
      return Entries.put name (.table (← Table.change intoArrays f inner key)) table
    | some (.list items) =>
      match intoArrays, items.getLast? with
      | true, some (.table inner) => do
        let inner ← Table.change intoArrays f inner key
        return Entries.put name (.list (items.dropLast ++ [.table inner])) table
      | _, _ => .error .notAppendable
    | some _ => .error .notAppendable

/-- Adds an entry under a new name. -/
def Table.add (name : String) (value : Value) (table : Table) : Except FormError Table :=
  if (Entries.get? table name).isSome then .error .keyRepeated else .ok (table ++ [(name, value)])

/-- Adds an empty table to the array of tables under a name. -/
def Table.addToArray (name : String) (table : Table) : Except FormError Table :=
  match Entries.get? table name with
  | none => .ok (table ++ [(name, .list [.table []])])
  | some (.list items) => .ok (Entries.put name (.list (items ++ [.table []])) table)
  | some _ => .error .notAppendable

/-- Values that are written in one piece and hold others. -/
def isInline : Value → Bool
  | .list _ | .table _ => true
  | .datum _ => false

/-- A key is another one or lies below one of them. -/
def isBelow (keys : List Key) (key : Key) : Bool := keys.any (·.isPrefixOf key)

/-- A document with what is closed in it. -/
structure Document where
  table : Table
  /-- The table to which entries are added. -/
  header : Key
  /-- Tables that no header may declare. -/
  declared : List Key
  /-- Tables that no later header may declare. -/
  pending : List Key
  /-- Values that do not grow. -/
  frozen : List Key

namespace Document

/-- The document without entries. -/
def empty : Document := ⟨[], [], [], [], []⟩

/-- Closes the tables that entries have made on their way, as a header does. -/
def closePending (d : Document) : Document :=
  { d with declared := d.pending ++ d.declared, pending := [] }

/-- Declares a table. -/
def declare (d : Document) (key : Key) : Except FormError Document := do
  let d := d.closePending
  if d.declared.contains key || isBelow d.frozen key then throw .tableRepeated
  let table ← d.table.change true .ok key
  return { d with table := table, header := key, declared := key :: d.declared }

/-- Adds a table to an array of tables. -/
def extend (d : Document) (key : Key) : Except FormError Document := do
  let d := d.closePending
  if isBelow d.frozen key then throw .notAppendable
  let table ← d.table.change true (Table.addToArray (key.getLast?.getD "")) key.dropLast
  return { d with
    table := table
    header := key
    declared := key :: d.declared.filter (!key.isPrefixOf ·)
    frozen := d.frozen.filter (!key.isPrefixOf ·) }

/-- The tables between the header and an entry. -/
def between (d : Document) (key : Key) : List Key :=
  ((List.range key.length).drop 1).map fun n => d.header ++ key.take n

/-- Adds an entry below the header. -/
def add (d : Document) (key : Key) (value : Value) : Except FormError Document := do
  if (d.between key).any d.declared.contains then throw .notAppendable
  let above := d.header ++ key.dropLast
  if isBelow d.frozen above then throw .notAppendable
  let table ← d.table.change true (Table.add (key.getLast?.getD "") value) above
  return { d with
    table := table
    pending := d.between key ++ d.pending
    frozen := if isInline value then (d.header ++ key) :: d.frozen else d.frozen }

end Document

end Greenlight.Toml

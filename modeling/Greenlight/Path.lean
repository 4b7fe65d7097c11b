import Greenlight.Text.Pieces

/-! # Paths

A path is a row of names, from the working directory or from the root. Empty names and single dots
are left out when a path is read; double dots stay. -/

namespace Greenlight

/-- Where a path starts. -/
inductive Path.Start where
  | here
  | root
  /-- A root written with exactly two slashes is kept apart. -/
  | doubleRoot
deriving DecidableEq, Repr

/-- A path in normal form. -/
structure Path where
  start : Path.Start
  names : List String
deriving DecidableEq, Repr

namespace Path

/-- The start that leading slashes stand for. -/
def startOf (slashes : Nat) : Start :=
  if slashes = 0 then .here else if slashes = 2 then .doubleRoot else .root

/-- Names that a path keeps. -/
def isKept (name : String) : Bool := name != "" && name != "."

/-- Reads a path. -/
def ofText (s : String) : Path :=
  ⟨startOf (s.toList.takeWhile (· == '/')).length, (Text.pieces '/' s).filter isKept⟩

/-- The slashes in front. -/
def Start.text : Start → String
  | .here => ""
  | .root => "/"
  | .doubleRoot => "//"

/-- Writes a path; the working directory itself is a dot. -/
def text (p : Path) : String :=
  match p.start, p.names with
  | .here, [] => "."
  | start, names => start.text ++ Text.join "/" names

/-- A path that starts at the root. -/
def isAbsolute (p : Path) : Bool := p.start != .here

/-- The path `q` seen from `p`: an absolute path stays what it is. -/
def join (p q : Path) : Path := if q.isAbsolute then q else ⟨p.start, p.names ++ q.names⟩

/-- A path below another one. -/
def child (p : Path) (name : String) : Path := p.join (ofText name)

/-- The path without its last name. -/
def parent (p : Path) : Path := ⟨p.start, p.names.dropLast⟩

/-- The last name. -/
def name (p : Path) : String := p.names.getLast?.getD ""

/-- A name cut before its last dot, if the dot stands neither first nor last. -/
def splitName (name : String) : Option (String × String) :=
  match Text.cutAtLast '.' name.toList with
  | some (stem, ending) =>
    if stem.isEmpty || ending.isEmpty then none
    else some (String.ofList stem, String.ofList ('.' :: ending))
  | none => none

/-- The ending of a name, with its dot. -/
def ending (name : String) : String := ((splitName name).map (·.2)).getD ""

/-- A name without its ending. -/
def stem (name : String) : String := ((splitName name).map (·.1)).getD name

end Path

end Greenlight

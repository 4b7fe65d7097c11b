import Greenlight.Path
import Greenlight.Text.Quoted

/-! # File trees

The files a program sees: folders, regular files and links, found by the names on the way from the
root. The working directory is one folder of the tree. Reading and writing follow links and fail for
the causes of `FileProblem`. What a file holds and a folder lists is there for a program that may not
read it, too. -/

namespace Greenlight

/-- Why a file operation fails. -/
inductive FileProblem where
  | missing
  | exists
  | notFolder
  | isFolder
  | denied
  | badFormat
  | nameTooLong
  | linkLoop
deriving DecidableEq, Repr

/-- The number of a cause. -/
def FileProblem.code : FileProblem → Nat
  | .missing => 2
  | .badFormat => 8
  | .denied => 13
  | .exists => 17
  | .notFolder => 20
  | .isFolder => 21
  | .nameTooLong => 36
  | .linkLoop => 40

/-- The cause in words. -/
def FileProblem.words : FileProblem → String
  | .missing => "No such file or directory"
  | .badFormat => "Exec format error"
  | .denied => "Permission denied"
  | .exists => "File exists"
  | .notFolder => "Not a directory"
  | .isFolder => "Is a directory"
  | .nameTooLong => "File name too long"
  | .linkLoop => "Too many levels of symbolic links"

/-- A file operation that failed, with the path it was given. -/
structure FileError where
  problem : FileProblem
  path : String
deriving DecidableEq, Repr

/-- The failure in words. -/
def FileError.message (e : FileError) : String :=
  s!"[Errno {e.problem.code}] {e.problem.words}: {Text.quoted e.path}"

/-- An entry of a file tree. -/
inductive Node where
  | file (content : List UInt8) (executable : Bool)
  | folder
  | link (target : String)
deriving DecidableEq, Repr

/-- The names from the root down to an entry. -/
abbrev Position := List String

/-- A file tree: its entries and the position of the working directory. -/
structure FileTree where
  entries : List (Position × Node)
  here : Position
  /-- The positions at which the program may not read. -/
  unreadable : List Position
deriving Repr

namespace FileTree

/-- An empty working directory. -/
def empty : FileTree := ⟨[], ["", "run"], []⟩

/-- The entry at a position. The working directory and the folders above it are always there. -/
def node? (t : FileTree) (at_ : Position) : Option Node :=
  if at_.isPrefixOf t.here then some .folder
  else (t.entries.find? (·.1 == at_)).map (·.2)

/-- Puts an entry at a position. -/
def put (t : FileTree) (at_ : Position) (node : Node) : FileTree :=
  { t with entries := t.entries.filter (·.1 != at_) ++ [(at_, node)] }

/-- What a path leads to. -/
inductive Target where
  | found (at_ : Position) (node : Node)
  /-- Nothing, in a folder that is there. -/
  | vacant (at_ : Position)

/-- The names of a path and the position where they start. -/
def origin (t : FileTree) (path : String) : Position × List String :=
  (if path.startsWith "/" then [""] else t.here, Text.pieces '/' path)

/-- The longest name of an entry, in bytes. -/
def maxNameSize : Nat := 255

/-- Follows names from a position. The last name is followed if it is a link, unless `keepLast` is set;
what comes behind a link is left to `follow`. -/
def walkTo (t : FileTree) (keepLast : Bool) (follow : Position → List String → Except FileProblem Target)
    (at_ : Position) : List String → Except FileProblem Target
  | [] => .ok (.found at_ .folder)
  | name :: rest =>
    if name = "" ∨ name = "." then walkTo t keepLast follow at_ rest
    else if name = ".." then
      walkTo t keepLast follow (if at_.length ≤ 1 then at_ else at_.dropLast) rest
    else if maxNameSize < name.utf8ByteSize then .error .nameTooLong
    else
      let next := at_ ++ [name]
      match t.node? next with
      | none => if rest.isEmpty then .ok (.vacant next) else .error .missing
      | some .folder => walkTo t keepLast follow next rest
      | some (.file content executable) =>
        if rest.isEmpty then .ok (.found next (.file content executable)) else .error .notFolder
      | some (.link target) =>
        if rest.isEmpty && keepLast then .ok (.found next (.link target))
        else
          let start := if target.startsWith "/" then [""] else at_
          follow start (Text.pieces '/' target ++ rest)

/-- Follows names from a position, through at most `links` links. -/
def walk (t : FileTree) (keepLast : Bool) : Nat → Position → List String → Except FileProblem Target
  | 0 => t.walkTo keepLast fun _ _ => .error .linkLoop
  | links + 1 => t.walkTo keepLast (t.walk keepLast links)

/-- The largest number of links on the way to an entry. -/
def maxLinks : Nat := 40

/-- What a path leads to, links followed. -/
def find (t : FileTree) (path : String) : Except FileProblem Target :=
  let (start, names) := t.origin path
  if path.isEmpty then .error .missing else walk t false maxLinks start names

/-- What a path names, a link at its end not followed. -/
def findEntry (t : FileTree) (path : String) : Except FileProblem Target :=
  let (start, names) := t.origin path
  if path.isEmpty then .error .missing else walk t true maxLinks start names

/-- A path that holds the character zero names nothing. -/
def isNameable (path : String) : Bool := !path.toList.contains (Char.ofNat 0)

/-- The path leads to a folder. -/
def isFolder (t : FileTree) (path : String) : Bool :=
  isNameable path &&
    match t.find path with
    | .ok (.found _ .folder) => true
    | _ => false

/-- The path leads to a regular file. -/
def isFile (t : FileTree) (path : String) : Bool :=
  isNameable path &&
    match t.find path with
    | .ok (.found _ (.file _ _)) => true
    | _ => false

/-- The names in a folder. -/
def list (t : FileTree) (path : String) : List String :=
  match t.find path with
  | .ok (.found at_ .folder) =>
    t.entries.filterMap fun (position, _) =>
      if position.dropLast == at_ && position.length == at_.length + 1 then position.getLast? else none
  | _ => []

/-- The program may not read what a path leads to. -/
def denies (t : FileTree) (path : String) : Bool :=
  match t.find path with
  | .ok (.found at_ _) => t.unreadable.contains at_
  | _ => false

/-- Reads the names in a folder. -/
def listing (t : FileTree) (path : String) : Except FileError (List String) :=
  if t.denies path then .error ⟨.denied, path⟩ else .ok (t.list path)

/-- The content of a file. -/
def content (t : FileTree) (path : String) : Except FileError (List UInt8) :=
  match t.find path with
  | .ok (.found _ (.file content _)) => .ok content
  | .ok (.found _ _) => .error ⟨.isFolder, path⟩
  | .ok (.vacant _) => .error ⟨.missing, path⟩
  | .error problem => .error ⟨problem, path⟩

/-- Reads a file. -/
def read (t : FileTree) (path : String) : Except FileError (List UInt8) :=
  if t.denies path then .error ⟨.denied, path⟩ else t.content path

/-- Changes the content of a file, an empty one being made if there is none. -/
def update (t : FileTree) (path : String) (change : List UInt8 → List UInt8) :
    Except FileError FileTree :=
  match t.find path with
  | .ok (.found at_ (.file content executable)) => .ok (t.put at_ (.file (change content) executable))
  | .ok (.found _ _) => .error ⟨.isFolder, path⟩
  | .ok (.vacant at_) => .ok (t.put at_ (.file (change []) false))
  | .error problem => .error ⟨problem, path⟩

/-- Replaces the content of a file. -/
def write (t : FileTree) (path : String) (content : List UInt8) : Except FileError FileTree :=
  t.update path fun _ => content

/-- Adds to the end of a file. -/
def append (t : FileTree) (path : String) (content : List UInt8) : Except FileError FileTree :=
  t.update path (· ++ content)

/-- Makes a folder where nothing is. -/
def makeFolder (t : FileTree) (path : String) : Except FileError FileTree :=
  match t.findEntry path with
  | .ok (.found _ _) => .error ⟨.exists, path⟩
  | .ok (.vacant at_) => .ok (t.put at_ .folder)
  | .error problem => .error ⟨problem, path⟩

/-- Accepts a folder that could not be made because it is there. -/
def keepFolder (t : FileTree) (path : String) (e : FileError) : Except FileError FileTree :=
  if e.problem ≠ .missing ∧ t.isFolder path then .ok t else .error e

/-- Makes a folder, given by its names from the last one up, and the folders above it. -/
def makeFoldersUp (t : FileTree) (start : Path.Start) : List String → Except FileError FileTree
  | [] =>
    let path := (⟨start, []⟩ : Path).text
    (t.makeFolder path).tryCatch (t.keepFolder path)
  | name :: above =>
    let path := (⟨start, (name :: above).reverse⟩ : Path).text
    match t.makeFolder path with
    | .ok t => .ok t
    | .error e =>
      if e.problem = .missing then do
        let t ← t.makeFoldersUp start above
        (t.makeFolder path).tryCatch (t.keepFolder path)
      else t.keepFolder path e

/-- Makes a folder and the folders above it; one that is there already is left alone. -/
def makeFolders (t : FileTree) (path : Path) : Except FileError FileTree :=
  t.makeFoldersUp path.start path.names.reverse

/-- Puts a file, a folder or a link below the working directory, with the folders above it. -/
def plant (t : FileTree) (path : String) (node : Node) : FileTree :=
  let p := Path.ofText path
  let t := (t.makeFolders p.parent).toOption.getD t
  match node, t.findEntry path with
  | .folder, .ok (.found _ .folder) => t
  | _, .ok (.vacant at_) | _, .ok (.found at_ _) => t.put at_ node
  | _, .error _ => t

/-- Takes from the program the permission to read what a path leads to. -/
def forbid (t : FileTree) (path : String) : FileTree :=
  match t.find path with
  | .ok (.found at_ _) => { t with unreadable := at_ :: t.unreadable }
  | _ => t

/-- The regular files below the working directory that another tree does not have, with their paths
from there. -/
def filesBeyond (t before : FileTree) : List (String × List UInt8) :=
  t.entries.filterMap fun (position, node) =>
    match node with
    | .file content _ =>
      if t.here.isPrefixOf position && (before.node? position).isNone then
        some (Text.join "/" (position.drop t.here.length), content)
      else none
    | _ => none

end FileTree

end Greenlight

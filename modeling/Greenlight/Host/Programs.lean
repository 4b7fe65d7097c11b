import Greenlight.Host.Tools

/-! # Programs

Which program a path leads to. The programs of the machine lie in its folders for programs; other
executable files name the program that reads them in their first line. -/

namespace Greenlight.Host

/-- The bytes that a program of the machine begins with; its name follows. -/
def programMark : List UInt8 := [0x7f, 0x45, 0x4c, 0x46]

/-- The programs of the machine besides its tools. -/
def shellNames : List String := ["sh", "dash"]

/-- The names of all programs. -/
def programNames : List String :=
  shellNames ++ ["env", "kill"] ++ (tools (.ofProgram "")).map (·.1)

/-- The folders in which programs lie. -/
def programFolders : List Position := [["", "bin"], ["", "usr", "bin"]]

/-- Folders and programs of the machine. -/
def fixtures : List (Position × Node) :=
  [(["", "usr"], .folder), (["", "usr", "local"], .folder), (["", "usr", "local", "bin"], .folder),
    (["", "dev"], .folder), (["", "tmp"], .folder)] ++
  programFolders.flatMap fun folder =>
    (folder, .folder) :: programNames.map fun name =>
      (folder ++ [name], .file (programMark ++ Text.encode name) true)

/-- The file tree with the programs of the machine. The folder of the tree, and those above it, become
entries of their own, so that they stay when a process moves. -/
def install (t : FileTree) : FileTree :=
  if (t.entries.any fun (position, _) => position == ["", "bin", "sh"]) then t
  else
    let above := (List.range t.here.length).map fun n => t.here.take (n + 1)
    { t with
      entries := t.entries ++ fixtures ++
        ((above.filter fun position => !(fixtures.any (·.1 == position))).map fun position =>
          (position, Node.folder)) }

/-- The name of the program that a file holds. -/
def programName? (content : List UInt8) : Option String :=
  if programMark.isPrefixOf content then
    some (String.ofList (Text.decodeLossy (content.drop programMark.length)))
  else none

/-- The reader that the first line of a file names, and an argument for it. -/
def readerOf? (content : List UInt8) : Option (String × List String) :=
  match content with
  | 35 :: 33 :: rest =>
    let line := (Text.decodeLossy (rest.takeWhile (· != 10))).dropWhile fun c => c == ' ' || c == '\t'
    let blank (c : Char) : Bool := c == ' ' || c == '\t'
    let path := line.takeWhile fun c => !blank c
    let argument := ((line.drop path.length).dropWhile blank).reverse.dropWhile blank |>.reverse
    if path.isEmpty then none
    else
      some (String.ofList path, if argument.isEmpty then [] else [String.ofList argument])
  | _ => none

/-- A program to run, and its arguments from its own name on. -/
structure Image where
  program : String
  arguments : List String

/-- What a path leads to when it is to be run with some arguments; the first is the name it is called
by. -/
def imageAt (t : FileTree) : Nat → String → List String → Except FileProblem Image
  | 0, _, _ => .error .linkLoop
  | fuel + 1, path, arguments =>
    match t.find path with
    | .error problem => .error problem
    | .ok (.vacant _) => .error .missing
    | .ok (.found _ (.file content true)) =>
      match programName? content with
      | some name => .ok ⟨name, arguments⟩
      | none =>
        match readerOf? content with
        | some (reader, options) =>
          imageAt t fuel reader (reader :: options ++ path :: arguments.tail)
        | none => .error .badFormat
    | .ok (.found _ _) => .error .denied

/-- The number of readers that may stand behind each other. -/
def maxReaders : Nat := 5

/-- The paths under which a command is looked for. -/
def candidatePaths (searched : String) (command : String) : List String :=
  if command.toList.contains '/' then [command]
  else
    (Text.pieces ':' searched).map fun folder =>
      if folder.isEmpty then command
      else if folder.endsWith "/" then folder ++ command else folder ++ "/" ++ command

/-- The image behind the first of some paths that leads to one. Without one, the first cause counts
that is not only that nothing is there; `failed` is the cause so far. -/
def findImage (t : FileTree) (arguments : List String) (failed : Option FileProblem)
    (last : FileProblem) : List String → Except FileProblem Image
  | [] => .error (failed.getD last)
  | path :: rest =>
    match imageAt t maxReaders path arguments with
    | .ok image => .ok image
    | .error problem =>
      let failed :=
        if problem = .missing ∨ problem = .notFolder then failed else failed.orElse fun _ => some problem
      findImage t arguments failed problem rest

/-- The image of a command. -/
def lookUp (t : FileTree) (searched : String) (command : List String) : Except FileProblem Image :=
  findImage t command none .missing (candidatePaths searched (command.headD ""))

/-- The text behind a name in an environment. -/
def settingOf (env : List (String × String)) (name default : String) : String :=
  ((env.find? (·.1 == name)).map (·.2)).getD default

/-- The folders that are searched where nothing else is said. -/
def defaultSearch : String := "/bin:/usr/bin"

end Greenlight.Host

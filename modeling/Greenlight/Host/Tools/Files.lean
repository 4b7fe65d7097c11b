import Greenlight.Host.Tools.Basic

/-! # Tools for files

Tools that list and change the files of the machine. -/

namespace Greenlight.Host

/-- Lists the names in a folder, or a file. -/
def lsTool : Tool := fun args => do
  let t ← viewTree
  let (options, paths) := splitOptions args
  let names (path : String) : List String :=
    let found := (t.list path).filter fun name =>
      options.contains 'a' || options.contains 'A' || !name.startsWith "."
    Text.sort (if options.contains 'a' then "." :: ".." :: found else found)
  let shown (names : List String) : String := String.join (names.map (· ++ "\n"))
  let paths := if paths.isEmpty then ["."] else paths
  let mut status := 0
  let mut first := true
  let there := fun path => match t.find path with
    | .ok (.found _ _) => true
    | _ => false
  for path in paths do
    if !there path then
      let words := match t.find path with
        | .error problem => problem.words
        | _ => FileProblem.missing.words
      status ← toolFails s!"cannot access '{path}': {words}" 2
  let isListed (path : String) : Bool := t.isFolder path && !options.contains 'd'
  let files := (Text.sort (paths.filter there)).filter fun path => !isListed path
  emitText 1 (shown files)
  if !files.isEmpty then first := false
  for path in (Text.sort paths).filter isListed do
    if paths.length = 1 then emitText 1 (shown (names path))
    else
      emitText 1 ((if first then "" else "\n") ++ path ++ ":\n" ++ shown (names path))
      first := false
  return status

/-- Makes folders. -/
def mkdirTool : Tool := fun args => do
  let (options, paths) := splitOptions args
  let parents := options.contains 'p'
  if paths.isEmpty then return ← usageFails "missing operand" 1
  let mut status := 0
  for path in paths do
    let problem ← changeTree fun t =>
      if parents then t.makeFolders (Path.ofText path) else t.makeFolder path
    match problem with
    | none => pure ()
    | some problem =>
      status ← toolFails s!"cannot create directory '{path}': {problem.words}" 1
  return status

/-- Takes an entry, and all below it, out of a file tree. -/
def removeAt (t : FileTree) (at_ : Position) : FileTree :=
  { t with entries := t.entries.filter fun (position, _) => !at_.isPrefixOf position }

/-- Removes files, and folders if it is asked to. -/
def rmTool : Tool := fun args => do
  let (options, paths) := splitOptions args
  if paths.isEmpty && !options.contains 'f' then return ← usageFails "missing operand" 1
  let mut status := 0
  for path in paths do
    let t ← viewTree
    match t.findEntry path with
    | .ok (.found at_ .folder) =>
      if options.contains 'r' || options.contains 'R' then keepTree (removeAt t at_)
      else status ← toolFails s!"cannot remove '{path}': Is a directory" 1
    | .ok (.found at_ _) => keepTree (removeAt t at_)
    | .ok (.vacant _) =>
      if !options.contains 'f' then
        status ← toolFails s!"cannot remove '{path}': {FileProblem.missing.words}" 1
    | .error problem =>
      if !options.contains 'f' then
        status ← toolFails s!"cannot remove '{path}': {problem.words}" 1
  return status

/-- Removes folders that are empty. -/
def rmdirTool : Tool := fun args => do
  if args.isEmpty then return ← usageFails "missing operand" 1
  let mut status := 0
  for path in args do
    let t ← viewTree
    match t.findEntry path with
    | .ok (.found at_ .folder) =>
      if (t.list path).isEmpty then keepTree (removeAt t at_)
      else status ← toolFails s!"failed to remove '{path}': Directory not empty" 1
    | .ok (.found _ _) => status ← toolFails s!"failed to remove '{path}': Not a directory" 1
    | .ok (.vacant _) =>
      status ← toolFails s!"failed to remove '{path}': {FileProblem.missing.words}" 1
    | .error problem => status ← toolFails s!"failed to remove '{path}': {problem.words}" 1
  return status

/-- The path to which an entry goes that is copied or moved to a target: into it if it is a folder. -/
def arrival (t : FileTree) (source target : String) : String :=
  if t.isFolder target then ((Path.ofText target).child (Path.ofText source).name).text else target

/-- Runs a tool for each of some sources and a target; several sources go into a folder. -/
def forSources (operands : List String) (step : String → String → Run Nat) : Run Nat := do
  match operands.reverse with
  | [] => usageFails "missing file operand" 1
  | [source] => usageFails s!"missing destination file operand after '{source}'" 1
  | [target, source] => step source target
  | target :: sources =>
    if !(← viewTree).isFolder target then
      let problem := match (← viewTree).find target with
        | .ok (.found _ _) => FileProblem.notFolder
        | _ => .missing
      toolFails s!"target '{target}': {problem.words}" 1
    else
      let mut status := 0
      for source in sources.reverse do
        status := max status (← step source target)
      return status

/-- Copies a file, or a folder with all below it if it is asked to. -/
def cpTool : Tool := fun args => do
  let (options, operands) := splitOptions args
  let recursive := options.any "rRa".toList.contains
  forSources operands fun source target => do
    let t ← viewTree
    let path := arrival t source target
    match t.find source with
    | .ok (.found _ (.file content executable)) =>
      let change (t : FileTree) : Except FileError FileTree := do
        let t ← t.write path content
        match t.find path with
        | .ok (.found at_ (.file _ _)) => return t.put at_ (.file content executable)
        | _ => return t
      match ← changeTree change with
      | none => return 0
      | some problem => toolFails s!"cannot create regular file '{path}': {problem.words}" 1
    | .ok (.found old _) =>
      if !recursive then toolFails s!"-r not specified; omitting directory '{source}'" 1
      else
        match t.findEntry path with
        | .ok (.vacant new) | .ok (.found new _) =>
          let below := t.entries.filter fun (position, _) => old.isPrefixOf position
          keepTree (below.foldl (fun t (position, node) =>
            t.put (new ++ position.drop old.length) node) t)
          return 0
        | .error problem => toolFails s!"cannot create directory '{path}': {problem.words}" 1
    | _ => toolFails s!"cannot stat '{source}': {FileProblem.missing.words}" 1

/-- Moves entries with all below them. -/
def mvTool : Tool := fun args =>
  forSources (splitOptions args).2 fun source target => do
    let t ← viewTree
    let path := arrival t source target
    match t.findEntry source, t.findEntry path with
    | .ok (.found old _), .ok (.vacant new) | .ok (.found old _), .ok (.found new _) =>
      let kept := if new = old then t else removeAt t new
      keepTree { kept with entries := kept.entries.map fun (position, node) =>
          (if old.isPrefixOf position then new ++ position.drop old.length else position, node) }
      return 0
    | .ok (.found _ _), .error problem =>
      toolFails s!"cannot move '{source}' to '{target}': {problem.words}" 1
    | _, _ => toolFails s!"cannot stat '{source}': {FileProblem.missing.words}" 1

/-- Makes a link. -/
def lnTool : Tool := fun args => do
  match (splitOptions args).2 with
  | [target, path] =>
    let t ← viewTree
    match t.findEntry path with
    | .ok (.vacant at_) =>
      keepTree (t.put at_ (.link target))
      return 0
    | .ok (.found _ _) => toolFails s!"failed to create symbolic link '{path}': File exists" 1
    | .error problem =>
      toolFails s!"failed to create symbolic link '{path}': {problem.words}" 1
  | _ => usageFails "missing file operand" 1

/-- Makes files executable, or takes that from them. -/
def chmodTool : Tool := fun args => do
  match args with
  | [mode] => usageFails s!"missing operand after '{mode}'" 1
  | mode :: paths =>
    let executable := if mode.startsWith "0" || mode.startsWith "7" || mode.startsWith "6" then
        mode.toList.any fun c => "1357".toList.contains c
      else Text.contains mode "+" && Text.contains mode "x"
    let mut status := 0
    for path in paths do
      let t ← viewTree
      match t.find path with
      | .ok (.found at_ (.file content _)) => keepTree (t.put at_ (.file content executable))
      | .ok (.found _ _) => pure ()
      | _ => status ← toolFails s!"cannot access '{path}': {FileProblem.missing.words}" 1
    return status
  | [] => usageFails "missing operand" 1

/-- Makes files that are not there. -/
def touchTool : Tool := fun args => do
  let (options, paths) := splitOptions args
  if paths.isEmpty then return ← usageFails "missing file operand" 1
  let mut status := 0
  for path in paths do
    match ← changeTree fun t =>
      if t.isFolder path || (options.contains 'c' && !t.isFile path) then .ok t
      else t.append path [] with
    | none => pure ()
    | some problem => status ← toolFails s!"cannot touch '{path}': {problem.words}" 1
  return status

/-! ## Names of files -/

/-- The path of a position. -/
def positionText (position : Position) : String :=
  if position.length ≤ 1 then "/" else Text.join "/" position

/-- Writes the folder of the process. -/
def pwdTool : Tool := fun _ => do
  emitText 1 (positionText (← get).process.folder ++ "\n")
  return 0

/-- The last name of a path. -/
def basenameTool : Tool := fun args => do
  if args.isEmpty then return ← usageFails "missing operand" 1
  let name := (Path.ofText (args.headD "")).name
  let ending := (args[1]?).getD ""
  let cut := if name.endsWith ending && name != ending then
      String.ofList (name.toList.take (name.length - ending.length)) else name
  emitText 1 (cut ++ "\n")
  return 0

/-- A path without its last name. -/
def dirnameTool : Tool := fun args => do
  if args.isEmpty then return ← usageFails "missing operand" 1
  emitText 1 ((Path.ofText (args.headD "")).parent.text ++ "\n")
  return 0

end Greenlight.Host

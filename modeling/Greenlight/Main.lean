import Greenlight.CommandLine
import Greenlight.Host
import Greenlight.Yaml

/-! # The program

The files below the working directory are read, a call of the gate runs on the host, and the files that
it has made or changed are written. -/

namespace Greenlight.Program

/-- The number of folders inside each other that are read. -/
def maxDepth : Nat := 64

/-- Reads the files below a folder into a file tree; links are left out. -/
def readFolder : Nat → String → FileTree → IO FileTree
  | 0, _, t => return t
  | depth + 1, folder, t => do
    let mut t := t
    let entries ← match ← ((← IO.currentDir) / folder).readDir.toBaseIO with
      | .ok entries => pure entries
      | .error _ => return t.forbid folder
    for entry in entries do
      let path := if folder = "." then entry.fileName else folder ++ "/" ++ entry.fileName
      match (← entry.path.symlinkMetadata).type with
      | .dir => t ← readFolder depth path (t.plant path .folder)
      | .file =>
        match ← (IO.FS.readBinFile path).toBaseIO with
        | .ok bytes => t := t.plant path (.file bytes.toList false)
        | .error _ => t := (t.plant path (.file [] false)).forbid path
      | _ => pure ()
    return t

/-- Writes the files of a tree that differ from those of another one. -/
def writeChanges (before after : FileTree) : IO Unit := do
  for (path, content) in after.filesBeyond .empty do
    if (before.content path).toOption != some content then
      IO.FS.createDirAll (Path.ofText path).parent.text
      IO.FS.writeBinFile path (.mk content.toArray)

/-- The variables of the program that are set, with the one that says where programs are found. -/
def readEnvironment : IO Environment :=
  ("PATH" :: Environment.variableNames.map (variableStart ++ ·)).filterMapM fun name => do
    return (← IO.getEnv name).map fun value => (name, value)

/-- The exit code of a call that is misused. -/
def misuse : UInt32 := 2

/-- The exit code of a call that ends with a fault. -/
def failure : UInt32 := 1

/-- Runs one call. -/
def run (arguments : List String) : IO UInt32 := do
  let t ← readFolder maxDepth "." .empty
  match CommandLine.read t arguments with
  | .error (.misuse e) =>
    IO.eprintln s!"Error: {e.message}"
    return misuse
  | .error (.fault fault) =>
    IO.eprintln s!"Error: {fault.message}"
    return failure
  | .ok call =>
    match call.run Yaml.read Host.surroundings (← readEnvironment) t with
    | .error fault =>
      IO.eprintln s!"Error: {fault.message}"
      return failure
    | .ok ended =>
      IO.print ended.output
      writeChanges t ended.campaign.world
      return ended.exitCode.toUInt32

end Greenlight.Program

/-- Runs the program. -/
def main (arguments : List String) : IO UInt32 := Greenlight.Program.run arguments

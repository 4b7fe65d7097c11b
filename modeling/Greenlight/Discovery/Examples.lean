import Greenlight.Discovery.Manifest

/-! # Example programs

The examples that the manifest of a crate declares, and those that lie in its folder of examples. Of
several examples with one name the first that is offered counts: declared ones in their order, then
those in the folder in the order of their file names. -/

namespace Greenlight.Discovery

/-- An example program and its main file. -/
structure Example where
  name : String
  path : Path
deriving DecidableEq, Repr

/-- The folder of examples. -/
def examplesFolder : String := "examples"

/-- The main file that an entry of the manifest names, or the one that its name stands for. -/
def entryPath (entry : Toml.Table) (name : String) : Except Fault Path :=
  match Entries.get? entry "path" with
  | some (.datum (.text s)) => .ok (Path.ofText (if s.isEmpty then s!"{examplesFolder}/{name}.rs" else s))
  | some v => if v.holds then .error .pathNotText else .ok (.ofText s!"{examplesFolder}/{name}.rs")
  | none => .ok (.ofText s!"{examplesFolder}/{name}.rs")

/-- The example that an entry of the manifest declares. -/
def Example.ofEntry (root : Path) (entry : Toml.Value) : Except Fault Example :=
  match entry with
  | .table table =>
    match Entries.get? table "name" with
    | some (.datum (.text name)) => (entryPath table name).map fun path => ⟨name, root.join path⟩
    | _ => .error (.discovery (.exampleNameless root))
  | _ => .error (.discovery (.exampleNameless root))

/-- The examples that a manifest declares, in order. -/
def declaredExamples (root : Path) (manifest : Toml.Table) : Except Fault (List Example) :=
  match (Entries.get? manifest "example").getD (.list []) with
  | .list entries => entries.mapM (Example.ofEntry root)
  | _ => .error (.discovery (.examplesNoArray (manifestPath root)))

/-- The manifest lets the folder of examples be looked through. -/
def looksInFolder (manifest : Toml.Table) : Bool :=
  match Entries.get? manifest "package" with
  | some (.table package) => ((Entries.get? package "autoexamples").getD (.datum (.bool true))).holds
  | _ => true

/-- The example that a name in the folder of examples stands for: a source file, or a folder with a
main file. -/
def Example.ofName? (t : FileTree) (folder : Path) (name : String) : Option Example :=
  let path := folder.child name
  let main := path.child "main.rs"
  if t.isFile path.text && Path.ending name == ".rs" then some ⟨Path.stem name, path⟩
  else if t.isFolder path.text && t.isFile main.text then some ⟨name, main⟩
  else none

/-- The examples in the folder of examples, in the order of their file names. -/
def examplesInFolder (t : FileTree) (folder : Path) : Except Fault (List Example) :=
  if t.isFolder folder.text then
    match t.listing folder.text with
    | .ok names => .ok ((Text.sort names).filterMap (Example.ofName? t folder))
    | .error e => .error (.discovery (.examplesUnreadable folder e))
  else .ok []

/-- All examples that a crate offers. -/
def offeredExamples (t : FileTree) (root : Path) (manifest : Toml.Table) :
    Except Fault (List Example) := do
  let declared ← declaredExamples root manifest
  if looksInFolder manifest then
    return declared ++ (← examplesInFolder t (root.child examplesFolder))
  else return declared

/-- The examples that are not denied, sorted by name, the first one of each name. -/
def selectExamples (denied : List String) (offered : List Example) : List Example :=
  let kept := offered.filter fun e => !denied.contains e.name
  (Text.sort (kept.map (·.name)).eraseDups).filterMap fun name => kept.find? (·.name == name)

/-- The examples of the crate below a root. -/
def examples (t : FileTree) (root : Path) (denied : List String) : Except Fault (List Example) := do
  checkRoot t root
  let manifest ← readManifest t root
  return selectExamples denied (← offeredExamples t root manifest)

end Greenlight.Discovery

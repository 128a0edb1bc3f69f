import DeviceParameters.CommandLine.Program

/-!
# The executable

The outer layer of the program. It takes down what stands on the host along the path of the
medium, runs the program on that, and brings the host to the tree that the run has left. What
the run decides is decided in `CommandLine.run`; nothing is decided here.

Only the medium is looked at: the path to it, and the entries of a root or the contents of an
image. A run never removes a file other than one that stands where a root is to be.
-/

namespace DeviceParameters.Executable

/-- A path as the host's interface takes it. -/
def onHost (path : Path) : IO.FS.DirEntry := ⟨".", path.display⟩

/-- Take down what stands on the host at a path. -/
def observe (tree : FileTree) (path : Path) : IO FileTree := do
  let place := (onHost path).path
  if ← place.isDir then
    return (tree.makeDirectoryAll path).1
  else if ← place.pathExists then
    let contents ← IO.FS.readBinFile place
    return (tree.writeFile path contents.toList).toOption.getD tree
  else
    return tree

/-- Take down a medium and the way to it. -/
def observeMedium (medium : Path) : IO FileTree := do
  let tree ← medium.ancestors.reverse.foldlM observe (FileTree.fresh (Utf8.bytes "work"))
  let place := (onHost medium).path
  if ← place.isDir then
    let entries ← place.readDir
    entries.foldlM (fun tree entry => observe tree (medium.join (.ofText entry.fileName))) tree
  else
    return tree

/-- Write contents to the host. -/
def store (path : Path) (contents : Bytes) : IO Unit :=
  IO.FS.writeBinFile (onHost path).path ⟨contents.toArray⟩

/-- Bring the host to a tree at a path, given what was taken down before. -/
def settle (before after : FileTree) (path : Path) : IO Unit := do
  match before.stat path, after.stat path with
  | .ok .directory, .ok .directory => return
  | .ok (.file _ _), .ok .directory =>
    IO.FS.removeFile (onHost path).path
    IO.FS.createDirAll (onHost path).path
  | .error _, .ok .directory => IO.FS.createDirAll (onHost path).path
  | .ok (.file _ old), .ok (.file _ new) => if old ≠ new then store path new
  | _, .ok (.file _ new) => store path new
  | _, .error _ => return

/-- Bring the host to a tree along the path of a medium and in it. -/
def settleMedium (before after : FileTree) (medium : Path) : IO Unit := do
  medium.ancestors.reverse.forM (settle before after)
  match after.listDirectory medium with
  | .ok entries => entries.forM fun entry => settle before after (medium.join ⟨entry.1⟩)
  | .error _ => return

/-- An event on one line. -/
def eventLine (event : Event) : String :=
  let fields := event.fields.map fun field => s!" {field.1}=" ++ field.2.render
  event.level.name ++ " " ++ event.message ++ String.join fields

/-- Run the program on the host. -/
def run (arguments : List String) : IO UInt32 := do
  let medium :=
    (CommandLine.Invocation.ofArguments arguments).toOption.bind (·.medium? .standard)
  let before ← match medium with
    | some path => observeMedium path
    | none => pure .empty
  let (after, exit) := CommandLine.run before arguments
  match medium with
  | some path => settleMedium before after path
  | none => pure ()
  exit.events.forM fun event => IO.println (eventLine event)
  IO.print exit.output
  IO.eprint exit.errors
  return UInt32.ofNat exit.code

end DeviceParameters.Executable

/-- The program. -/
def main (arguments : List String) : IO UInt32 := DeviceParameters.Executable.run arguments

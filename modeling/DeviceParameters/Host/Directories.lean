import DeviceParameters.Host.Lookup

/-!
# Directories by path

A directory is made in a directory that exists, or together with every missing one above
it; it is removed when it is empty, or with everything in it. Making and removing in bulk can
fail half way, and then the tree that was reached is given back beside the cause. A path that
leads through a directory which was just removed, as `a/..` does, does not find its way back.

A listing is by name, as byte strings in ascending order.
-/

namespace DeviceParameters.FileTree

/-- Make one directory. -/
def makeDirectory (tree : FileTree) (path : Path) : Except HostError FileTree := do
  checkPath path
  match path.names.getLast? with
  | none => .error .alreadyExists
  | some name =>
    let parent ← tree.locateParent path
    if name = Path.here ∨ name = Path.above then .error .alreadyExists
    else
      let place ← step parent name
      match tree.node? place with
      | some _ => .error .alreadyExists
      | none => .ok (tree.putDirectory place)

/-- What a refusal to make a directory comes to: nothing, if the directory is there. -/
def unlessDirectory (tree : FileTree) (path : Path) (error : HostError) : Except HostError Unit :=
  if tree.isDirectory path then .ok () else .error error

/-- Make the first directory of a list, after the others if they are missing. -/
def makeDirectories (tree : FileTree) : List Path → FileTree × Except HostError Unit
  | [] => (tree, .ok ())
  | path :: above =>
    match tree.makeDirectory path with
    | .ok made => (made, .ok ())
    | .error .notFound =>
      match tree.makeDirectories above with
      | (reached, .error error) => (reached, .error error)
      | (reached, .ok ()) =>
        match reached.makeDirectory path with
        | .ok made => (made, .ok ())
        | .error error => (reached, reached.unlessDirectory path error)
    | .error error => (tree, tree.unlessDirectory path error)

/-- Make a directory and every missing one above it. A path without a parent asks for nothing. -/
def makeDirectoryAll (tree : FileTree) (path : Path) : FileTree × Except HostError Unit :=
  match path.parent? with
  | none => (tree, .ok ())
  | some _ => tree.makeDirectories path.ancestors

/-- Remove an empty directory, by a path that names it in the directory above. -/
def removeDirectory (tree : FileTree) (path : Path) : Except HostError FileTree := do
  checkPath path
  match path.names.getLast? with
  | none => .error .busy
  | some name =>
    let parent ← tree.locateParent path
    if name = Path.here then .error .invalidArgument
    else if name = Path.above then .error .directoryNotEmpty
    else
      let place ← step parent name
      match tree.node? place with
      | none => .error .notFound
      | some (.file _ _) => .error .notDirectory
      | some .directory =>
        if tree.children place = [] then .ok (tree.remove place) else .error .directoryNotEmpty

/-- Remove a directory and everything in it. What is in it goes first; then the path is walked
again to remove the directory itself, and where it leads nowhere any more nothing is left to
be done. -/
def removeDirectoryAll (tree : FileTree) (path : Path) : FileTree × Except HostError Unit :=
  match tree.find path with
  | .error error => (tree, .error error)
  | .ok (_, .file _ _) => (tree, .error .notDirectory)
  | .ok (place, .directory) =>
    let emptied := tree.removeBelow place
    match emptied.removeDirectory path with
    | .ok removed => (removed, .ok ())
    | .error .notFound => (emptied, .ok ())
    | .error error => (emptied, .error error)

/-- What stands directly in the directory that a path names, in no particular order. -/
def listDirectory (tree : FileTree) (path : Path) : Except HostError (List (Name × Node)) := do
  match ← tree.find path with
  | (place, .directory) => .ok (tree.children place)
  | (_, .file _ _) => .error .notDirectory

/-- Whether one byte string stands before another in a listing, or is the same. -/
def listedBefore (left right : Bytes) : Bool := decide (left ≤ right)

/-- Everything below the current directory, by relative path in ascending order. -/
def inventory (tree : FileTree) : List (Bytes × Node) :=
  ((tree.descendants tree.current).map fun entry =>
    (([Path.separator].intercalate entry.1 : Bytes), entry.2)).mergeSort
      fun left right => listedBefore left.1 right.1

end DeviceParameters.FileTree

import DeviceParameters.Host.Error
import DeviceParameters.Host.FileTree

/-!
# Finding what a path names

A path is walked name by name, and each name is looked up from a directory: from a file the
walk is refused, from a vacant place there is nothing to find. The last name may lead to a
vacant place, which is then where something can be made. A path that ends in a separator
names a directory or nothing.

Before the walk three kinds of path are turned away: those with a zero byte, the empty one,
and those that are too long as a whole.
-/

namespace DeviceParameters.FileTree

/-- The most bytes in a name. -/
def maximumName : Nat := 255

/-- A path has fewer bytes than this. -/
def pathLimit : Nat := 4096

/-- Turn away paths that are not walked at all. -/
def checkPath (path : Path) : Except HostError Unit :=
  if 0 ∈ path.bytes then .error .nulInName
  else if path.bytes = [] then .error .notFound
  else if pathLimit ≤ path.bytes.length then .error .nameTooLong
  else .ok ()

/-- Where the walk of a path starts. -/
def start (tree : FileTree) (path : Path) : Place :=
  if path.isAbsolute then [] else tree.current

/-- Require a directory at a place. -/
def requireDirectory (tree : FileTree) (place : Place) : Except HostError Unit :=
  match tree.node? place with
  | some .directory => .ok ()
  | some (.file _ _) => .error .notDirectory
  | none => .error .notFound

/-- Where a name leads from a directory. -/
def step (place : Place) (name : Name) : Except HostError Place :=
  if name = Path.here then .ok place
  else if name = Path.above then .ok place.dropLast
  else if maximumName < name.length then .error .nameTooLong
  else .ok (place ++ [name])

/-- Follow names from a place, each from a directory. -/
def walk (tree : FileTree) (place : Place) : List Name → Except HostError Place
  | [] => .ok place
  | name :: rest => do
    tree.requireDirectory place
    let next ← step place name
    tree.walk next rest

/-- The place that a path leads to; it may be vacant. -/
def locate (tree : FileTree) (path : Path) : Except HostError Place := do
  checkPath path
  tree.walk (tree.start path) path.names

/-- The directory in which the last name of a path is to be looked up. -/
def locateParent (tree : FileTree) (path : Path) : Except HostError Place := do
  let place ← tree.walk (tree.start path) path.names.dropLast
  tree.requireDirectory place
  .ok place

/-- The place that a path leads to and what stands there. -/
def find (tree : FileTree) (path : Path) : Except HostError (Place × Node) := do
  let place ← tree.locate path
  match tree.node? place with
  | none => .error .notFound
  | some .directory => .ok (place, .directory)
  | some (.file serial contents) =>
    if path.endsInSeparator then .error .notDirectory
    else .ok (place, .file serial contents)

/-- What a path names. -/
def stat (tree : FileTree) (path : Path) : Except HostError Node :=
  (tree.find path).map Prod.snd

/-- Whether a path names a directory. -/
def isDirectory (tree : FileTree) (path : Path) : Bool :=
  match tree.stat path with
  | .ok .directory => true
  | _ => false

/-- Whether a path names anything. -/
def isPresent (tree : FileTree) (path : Path) : Bool := (tree.stat path).isOk

end DeviceParameters.FileTree

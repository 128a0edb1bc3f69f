import DeviceParameters.Host.Lookup

/-!
# Files by path

Opening a file gives a handle that stays good when the name goes. Opening for creation
makes an empty file where none stands, and refuses every path that can only name a
directory. Writing by path truncates first, so nothing of longer old contents is left.

A request that is refused has changed nothing; a request that succeeds changes the file
that the path names and nothing else.
-/

namespace DeviceParameters.FileTree

/-- The length that the host reports for a directory. -/
def directoryLength : Nat := 4096

/-- The length that the host reports for what stands at a place. -/
def reportedLength : Node → Nat
  | .directory => directoryLength
  | .file _ contents => contents.length

/-- Open a file that exists. -/
def openExisting (tree : FileTree) (path : Path) : Except HostError FileHandle := do
  match ← tree.find path with
  | (_, .directory) => .error .isDirectory
  | (place, .file serial _) => .ok ⟨place, serial⟩

/-- Open a file, making an empty one where none stands. -/
def openOrCreate (tree : FileTree) (path : Path) : Except HostError (FileTree × FileHandle) := do
  checkPath path
  match path.names.getLast? with
  | none => .error .isDirectory
  | some name =>
    let parent ← tree.locateParent path
    if path.endsInSeparator then .error .isDirectory
    else
      let place ← step parent name
      match tree.node? place with
      | some .directory => .error .isDirectory
      | some (.file serial _) => .ok (tree, ⟨place, serial⟩)
      | none => .ok (tree.putFile place [], ⟨place, tree.nextSerial⟩)

/-- The contents of the file that a path names. -/
def readFile (tree : FileTree) (path : Path) : Except HostError Bytes := do
  match ← tree.find path with
  | (_, .directory) => .error .isDirectory
  | (_, .file _ contents) => .ok contents

/-- Create or truncate a file and write its contents. -/
def writeFile (tree : FileTree) (path : Path) (contents : Bytes) : Except HostError FileTree := do
  let (opened, handle) ← tree.openOrCreate path
  .ok (opened.setContents handle contents)

/-- Remove the name of a file. -/
def removeFile (tree : FileTree) (path : Path) : Except HostError FileTree := do
  match ← tree.find path with
  | (_, .directory) => .error .isDirectory
  | (place, .file _ _) => .ok (tree.remove place)

/-- Cut or zero-extend the file that a path names. -/
def resizeFile (tree : FileTree) (path : Path) (length : Nat) : Except HostError FileTree := do
  let handle ← tree.openExisting path
  .ok (tree.setContents handle ((tree.contents handle).resize length))

end DeviceParameters.FileTree

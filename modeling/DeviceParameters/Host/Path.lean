import DeviceParameters.Text.Utf8

/-!
# Paths

A path is a byte string read as names between separators. Two readings of it are needed.
The host walks the names one by one, `.` and `..` included. The parent of a path is the
beginning that ends with the component before the last, where repeated separators and every
`.` but a leading one are no component, so that the parent of `a/` is the parent of `a`. A
path that is all separators and such dots has no parent.

Nothing here looks at a file tree.
-/

namespace DeviceParameters

/-- The name of an entry in its directory: bytes without a separator. -/
abbrev Name := Bytes

/-- A path as it was written. -/
structure Path where
  bytes : Bytes
  deriving DecidableEq

namespace Path

/-- The byte between two names. -/
def separator : UInt8 := 0x2F

/-- The name that stands for the directory itself. -/
def here : Name := [0x2E]

/-- The name that stands for the directory above. -/
def above : Name := [0x2E, 0x2E]

/-- The path that a text spells. -/
def ofText (text : String) : Path := ⟨Utf8.bytes text⟩

/-- A path as text for a reader. -/
def display (path : Path) : String := Utf8.display path.bytes

/-- Cut at every separator; the pieces may be empty. -/
def pieces : Bytes → List Bytes
  | [] => [[]]
  | byte :: rest =>
    if byte = separator then [] :: pieces rest
    else match pieces rest with
      | [] => [[byte]]
      | piece :: others => (byte :: piece) :: others

/-- The names along a path, in order. -/
def names (path : Path) : List Name := (pieces path.bytes).filter (· ≠ [])

/-- Whether a path starts at the top of the tree. -/
def isAbsolute (path : Path) : Bool := path.bytes.head? == some separator

/-- Whether a path asks for a directory by ending in a separator. -/
def endsInSeparator (path : Path) : Bool := path.bytes.getLast? == some separator

/-- The path with the given names. -/
def build (absolute : Bool) (names : List Name) : Path :=
  ⟨(if absolute then [separator] else []) ++ [separator].intercalate names⟩

/-- Whether a piece is a component, by what stands in front of it: it has a name, and a `.`
counts only at the very beginning. -/
def isComponent (piece : Bytes) (front : List Bytes) : Bool :=
  piece ≠ [] && (piece ≠ here || front = [])

/-- The beginnings of a path that end with a component, the longest first, from the pieces of
the path in reverse order. -/
def beginnings : List Bytes → List Path
  | [] => []
  | piece :: front =>
    if isComponent piece front then
      ⟨[separator].intercalate (piece :: front).reverse⟩ :: beginnings front
    else beginnings front

/-- The path without its last component, if it has one. -/
def parent? (path : Path) : Option Path :=
  match beginnings (pieces path.bytes).reverse with
  | [] => none
  | [_] => some (build path.isAbsolute [])
  | _ :: parent :: _ => some parent

/-- The path itself and then the paths above it that have a component, the nearest first. -/
def ancestors (path : Path) : List Path :=
  path :: (beginnings (pieces path.bytes).reverse).drop 1

/-- A name read from a directory. An absolute name replaces the directory; otherwise one
separator stands between the two, unless the directory brings it or is empty. -/
def join (directory name : Path) : Path :=
  if name.isAbsolute then name
  else if directory.bytes = [] ∨ directory.endsInSeparator then ⟨directory.bytes ++ name.bytes⟩
  else ⟨directory.bytes ++ separator :: name.bytes⟩

end Path

end DeviceParameters

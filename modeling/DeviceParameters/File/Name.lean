import DeviceParameters.Error

/-!
# File names of keys

A key is kept in a file of its own, named by the key and an extension. A key is accepted when
it is not empty, not too long, and free of separators and zero bytes, so that the file stands
directly in the root whatever the key says.

The reading of a file name takes the extension off once and asks for an accepted key. Writing
and reading are inverse to each other.
-/

namespace DeviceParameters.FileName

/-- The most bytes of a key. -/
def maximumKey : Nat := 26

/-- The extension of a parameter file. -/
def fileExtension : String := "par"

/-- What a file name has after the key. -/
def ending : List Char := '.' :: fileExtension.toList

/-- The characters that would make a key more than one name. -/
def isSeparator (char : Char) : Bool := char = '/' || char = '\\' || char = '\x00'

/-- Why a key is refused, if it is; the first of the rules that it breaks. -/
def fault? (key : String) : Option KeyFault :=
  if key.toList = [] then some .empty
  else if maximumKey < Utf8.size key then some .tooLong
  else if key.toList.any isSeparator then some .separator
  else none

/-- The file name of a key. -/
def ofKey (key : String) : Except ParameterError String :=
  match fault? key with
  | some fault => .error (.invalidKey key fault)
  | none => .ok (String.ofList (key.toList ++ ending))

/-- A text without an ending, if it has that ending. -/
def dropEnding (ending text : List Char) : Option (List Char) :=
  if ending.isSuffixOf text then some (text.take (text.length - ending.length)) else none

/-- The key of a file name. -/
def key? (name : String) : Option String :=
  match dropEnding ending name.toList with
  | none => none
  | some chars =>
    let key := String.ofList chars
    if fault? key = none then some key else none

/-- Taking an ending off undoes putting it on. -/
theorem dropEnding_append (ending text : List Char) :
    dropEnding ending (text ++ ending) = some text := by
  simp [dropEnding]

/-- What is left has the ending behind it. -/
theorem eq_append_of_dropEnding {ending text rest : List Char}
    (dropped : dropEnding ending text = some rest) : text = rest ++ ending := by
  unfold dropEnding at dropped
  split at dropped
  · rename_i ends
    obtain ⟨front, rfl⟩ := List.isSuffixOf_iff_suffix.mp ends
    have same : front = rest := by simpa using dropped
    rw [same]
  · simp at dropped

end DeviceParameters.FileName

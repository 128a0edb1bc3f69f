import DeviceParameters.Text.Quoted

/-!
# Records as JSON

A record is a list of named scalars, and a report is one record or a list of records. The
layout is fixed: two spaces a level, one field or record a line, a space after the colon,
and an empty list in one piece. Strings keep every character but the double quote, the
backslash and the control characters below the space.
-/

namespace DeviceParameters.Json

/-- A value of a field. -/
inductive Scalar where
  | text (value : String)
  | number (value : Nat)
  | absent
  deriving DecidableEq, Repr

/-- Named values in the order in which they are written. -/
abbrev Record := List (String × Scalar)

/-- A code unit below the space as four hexadecimal digits. -/
def controlCode (value : Nat) : String :=
  let digits := Quoted.hexadecimal value
  "\\u" ++ String.ofList (List.replicate (4 - digits.length) '0') ++ digits

/-- How one character is written inside a JSON string. -/
def escapeChar (char : Char) : String :=
  match char with
  | '"' => "\\\""
  | '\\' => "\\\\"
  | '\n' => "\\n"
  | '\r' => "\\r"
  | '\t' => "\\t"
  | '\x08' => "\\b"
  | '\x0c' => "\\f"
  | _ => if char.toNat < 0x20 then controlCode char.toNat else char.toString

/-- A JSON string. -/
def string (text : String) : String :=
  "\"" ++ String.join (text.toList.map escapeChar) ++ "\""

/-- A scalar as JSON. -/
def Scalar.render : Scalar → String
  | .text value => string value
  | .number value => toString value
  | .absent => "null"

/-- Spaces before a line at a nesting level. -/
def indent (level : Nat) : String := String.ofList (List.replicate (2 * level) ' ')

/-- The fields of a record, one a line. -/
def renderFields (level : Nat) (record : Record) : String :=
  String.intercalate ",\n" (record.map fun field =>
    indent level ++ string field.1 ++ ": " ++ field.2.render)

/-- A record whose closing brace stands at `level`. -/
def renderRecord (level : Nat) (record : Record) : String :=
  "\x7b\n" ++ renderFields (level + 1) record ++ "\n" ++ indent level ++ "\x7d"

/-- A list of records at the outermost level. -/
def renderRecords : List Record → String
  | [] => "[]"
  | records =>
    "[\n" ++ String.intercalate ",\n" (records.map fun record =>
      indent 1 ++ renderRecord 1 record) ++ "\n]"

end DeviceParameters.Json

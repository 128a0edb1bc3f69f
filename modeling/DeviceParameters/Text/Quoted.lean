import DeviceParameters.Text.Unseen

/-!
# Quoted text

A text between double quotes, on one line and with nothing hidden: a double quote and a
backslash are marked with a backslash, the common control characters have short names, and
every other character that shows nothing is written as its code point in braces. An
apostrophe stands for itself.
-/

namespace DeviceParameters.Quoted

/-- A number in lower-case hexadecimal, without leading zeros. -/
def hexadecimal (value : Nat) : String := String.ofList (Nat.toDigits 16 value)

/-- Whether a character is written as its code point. -/
def isSpelledOut (char : Char) : Bool :=
  if char.toNat < 0x80 then char.toNat < 0x20 || char.toNat == 0x7F else Unseen.isUnseen char

/-- How one character is written between the quotes. -/
def quoteChar (char : Char) : String :=
  match char with
  | '"' => "\\\""
  | '\\' => "\\\\"
  | '\n' => "\\n"
  | '\r' => "\\r"
  | '\t' => "\\t"
  | '\x00' => "\\0"
  | _ => if isSpelledOut char then "\\u\x7b" ++ hexadecimal char.toNat ++ "\x7d" else char.toString

/-- The quoted form of a text. -/
def quote (text : String) : String :=
  "\"" ++ String.join (text.toList.map quoteChar) ++ "\""

end DeviceParameters.Quoted

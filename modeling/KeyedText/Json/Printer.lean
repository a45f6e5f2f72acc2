import KeyedText.Json.Value

/-!
# Printing JSON

A value is printed on one line without spaces, or over several lines with two spaces for each
level.  Strings hold every character as itself but quotes, backslashes and control characters.
-/

namespace KeyedText
namespace Json

/-- A hexadecimal digit. -/
def hexDigit (value : Nat) : Char :=
  if value < 10 then Char.ofNat ('0'.toNat + value) else Char.ofNat ('a'.toNat + (value - 10))

/-- A character as it is written in a string. -/
def escapedChar (character : Char) : List Char :=
  match character with
  | '"' => ['\\', '"']
  | '\\' => ['\\', '\\']
  | '\x08' => ['\\', 'b']
  | '\x0c' => ['\\', 'f']
  | '\n' => ['\\', 'n']
  | '\r' => ['\\', 'r']
  | '\t' => ['\\', 't']
  | other =>
    if other.toNat < 32 then
      ['\\', 'u', '0', '0', hexDigit (other.toNat / 16), hexDigit (other.toNat % 16)]
    else [other]

/-- A string in its quotes. -/
def quotedText (text : String) : String :=
  "\"" ++ String.ofList (text.toList.flatMap escapedChar) ++ "\""

mutual

/-- A value on one line. -/
def compact : Json → String
  | null => "null"
  | bool value => if value then "true" else "false"
  | number value => value.text
  | string value => quotedText value
  | array elements => "[" ++ ",".intercalate (compactElements elements) ++ "]"
  | object members => "\x7b" ++ ",".intercalate (compactMembers members) ++ "\x7d"
termination_by structural value => value

/-- The elements of an array, each on one line. -/
def compactElements : List Json → List String
  | [] => []
  | element :: rest => compact element :: compactElements rest
termination_by structural elements => elements

/-- The members of an object, each on one line. -/
def compactMembers : List (String × Json) → List String
  | [] => []
  | (key, value) :: rest => (quotedText key ++ ":" ++ compact value) :: compactMembers rest
termination_by structural members => members

end

/-- Brackets around lines that are one level deeper, or around nothing. -/
def bracketed (opening closing : String) (level : Nat) (lines : List String) : String :=
  let margin (level : Nat) : String := String.ofList (List.replicate (2 * level) ' ')
  if lines.isEmpty then opening ++ closing
  else
    let separator := ",\n" ++ margin (level + 1)
    opening ++ "\n" ++ margin (level + 1) ++ separator.intercalate lines ++ "\n" ++ margin level
      ++ closing

mutual

/-- A value over several lines, of which the first stands on a level. -/
def pretty (level : Nat) : Json → String
  | null => "null"
  | bool value => if value then "true" else "false"
  | number value => value.text
  | string value => quotedText value
  | array elements => bracketed "[" "]" level (prettyElements (level + 1) elements)
  | object members => bracketed "\x7b" "\x7d" level (prettyMembers (level + 1) members)
termination_by structural value => value

/-- The elements of an array on a level. -/
def prettyElements (level : Nat) : List Json → List String
  | [] => []
  | element :: rest => pretty level element :: prettyElements level rest
termination_by structural elements => elements

/-- The members of an object on a level. -/
def prettyMembers (level : Nat) : List (String × Json) → List String
  | [] => []
  | (key, value) :: rest =>
    (quotedText key ++ ": " ++ pretty level value) :: prettyMembers level rest
termination_by structural members => members

end

end Json
end KeyedText

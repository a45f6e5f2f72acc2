import KeyedText.Json.Value
import KeyedText.Text.Quoted

/-!
# Faults of JSON

A text can fail to be JSON, and a value can fail to have the shape that is asked for.  Faults of a
text have a line and a column, which counts bytes.
-/

namespace KeyedText
namespace Json

/-! ## Shapes -/

/-- What was found in the place of something else. -/
inductive Found where
  | null
  | bool (value : Bool)
  | number (value : JsonNumber)
  | string (value : String)
  | sequence
  | map
deriving DecidableEq, Repr

/-- What was found, in words. -/
def Found.text : Found → String
  | null => "null"
  | bool value => "boolean \x60" ++ (if value then "true" else "false") ++ "\x60"
  | number (.decimal spelling) => "floating point \x60" ++ spelling ++ "\x60"
  | number value => "integer \x60" ++ value.text ++ "\x60"
  | string value => "string " ++ Text.quoted value
  | sequence => "sequence"
  | map => "map"

/-- What a value is. -/
def found : Json → Found
  | null => .null
  | bool value => .bool value
  | number value => .number value
  | string value => .string value
  | array _ => .sequence
  | object _ => .map

/-- How a value fails to have a shape. -/
inductive Mismatch where
  /-- The value is of another type. -/
  | type (found : Found) (wanted : String)
  /-- The value is of the type, but not one of its values. -/
  | value (found : Found) (wanted : String)
  /-- A sequence has the wrong number of elements. -/
  | length (count : Nat) (wanted : String)
  /-- A word is none of the possible ones. -/
  | choice (found : String) (choices : List String)
  /-- A member that has to be there is missing. -/
  | missing (field : String)
  /-- A member is there twice. -/
  | repeated (field : String)
deriving DecidableEq, Repr

/-- Words of which one is possible. -/
def oneOf (choices : List String) : String :=
  let marked := choices.map fun choice => "\x60" ++ choice ++ "\x60"
  match marked with
  | [left, right] => left ++ " or " ++ right
  | [only] => only
  | several => "one of " ++ ", ".intercalate several

/-- The wording of a mismatch. -/
def Mismatch.message : Mismatch → String
  | type found wanted => "invalid type: " ++ found.text ++ ", expected " ++ wanted
  | value found wanted => "invalid value: " ++ found.text ++ ", expected " ++ wanted
  | length count wanted => "invalid length " ++ toString count ++ ", expected " ++ wanted
  | choice found choices =>
    "unknown variant \x60" ++ found ++ "\x60, expected " ++ oneOf choices
  | missing field => "missing field \x60" ++ field ++ "\x60"
  | repeated field => "duplicate field \x60" ++ field ++ "\x60"

/-! ## Texts -/

/-- What is wrong with a text. -/
inductive Cause where
  /-- The text ends in front of a value. -/
  | endInValue
  /-- The text ends in an array. -/
  | endInList
  /-- The text ends in an object. -/
  | endInObject
  /-- The text ends in a string. -/
  | endInString
  /-- A colon should stand here. -/
  | colonExpected
  /-- A comma or the end of the array should stand here. -/
  | listEndExpected
  /-- A comma or the end of the object should stand here. -/
  | objectEndExpected
  /-- A literal is misspelled. -/
  | wordExpected
  /-- A value should stand here. -/
  | valueExpected
  /-- An escape sequence stands for nothing. -/
  | badEscape
  /-- A number is malformed. -/
  | badNumber
  /-- A number is too large. -/
  | numberOutOfRange
  /-- A control character in a string. -/
  | controlCharacter
  /-- A key should stand here. -/
  | keyExpected
  /-- One half of a pair of escape sequences. -/
  | loneHalf
  /-- The second half of a pair of escape sequences should stand here. -/
  | halfExpected
  /-- A comma in front of a closing bracket. -/
  | trailingComma
  /-- Something behind the end. -/
  | trailingText
  /-- Too many brackets inside each other. -/
  | tooDeep
  /-- The value does not have the shape that is asked for. -/
  | mismatch (mismatch : Mismatch)
deriving DecidableEq, Repr

/-- The wording of a cause. -/
def Cause.message : Cause → String
  | endInValue => "EOF while parsing a value"
  | endInList => "EOF while parsing a list"
  | endInObject => "EOF while parsing an object"
  | endInString => "EOF while parsing a string"
  | colonExpected => "expected \x60:\x60"
  | listEndExpected => "expected \x60,\x60 or \x60]\x60"
  | objectEndExpected => "expected \x60,\x60 or \x60\x7d\x60"
  | wordExpected => "expected ident"
  | valueExpected => "expected value"
  | badEscape => "invalid escape"
  | badNumber => "invalid number"
  | numberOutOfRange => "number out of range"
  | controlCharacter => "control character (\\u0000-\\u001F) found while parsing a string"
  | keyExpected => "key must be a string"
  | loneHalf => "lone leading surrogate in hex escape"
  | halfExpected => "unexpected end of hex escape"
  | trailingComma => "trailing comma"
  | trailingText => "trailing characters"
  | tooDeep => "recursion limit exceeded"
  | mismatch inner => inner.message

/-- A position in a text. -/
structure Position where
  /-- The line, counted from one. -/
  line : Nat
  /-- The number of bytes in front of the position on its line. -/
  column : Nat
deriving DecidableEq, Repr

/-- The position behind a number of bytes of a text. -/
def Position.after (position : Position) : Nat → List Char → Position
  | _, [] => position
  | bytes, character :: rest =>
    if bytes == 0 then position
    else if character == '\n' then Position.after ⟨position.line + 1, 0⟩ (bytes - 1) rest
    else
      let size := min bytes character.utf8Size
      Position.after ⟨position.line, position.column + size⟩ (bytes - size) rest

/-- A fault of a text.  Its position is missing as long as nothing has fixed it. -/
structure Fault where
  /-- Where the fault shows. -/
  position : Option Position
  /-- What is wrong. -/
  cause : Cause
deriving DecidableEq, Repr

/-- The wording of a fault. -/
def Fault.message (fault : Fault) : String :=
  match fault.position with
  | none => fault.cause.message
  | some position =>
    fault.cause.message ++ " at line " ++ toString position.line ++ " column "
      ++ toString position.column

end Json
end KeyedText

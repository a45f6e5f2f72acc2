import KeyedText.Json.Scan

/-!
# Reading JSON

A reader moves a cursor over a text and takes what the caller asks for.  A fault that concerns the
shape of a value is positioned where the reader stands when the value around it ends.
-/

namespace KeyedText
namespace Json

/-- Where a reader stands. -/
structure Cursor where
  /-- The text ahead. -/
  rest : List Char
  /-- The position. -/
  position : Position

/-- A computation that moves a cursor and can fail. -/
abbrev Step (α : Type) := EStateM Fault Cursor α

namespace Step

/-! ## Faults -/

/-- Fails behind a number of bytes. -/
def failAfter (bytes : Nat) (cause : Cause) : Step α := do
  let cursor ← get
  throw ⟨some (cursor.position.after bytes cursor.rest), cause⟩

/-- Fails here. -/
def failHere (cause : Cause) : Step α :=
  failAfter 0 cause

/-- Fails at the next byte. -/
def failAhead (cause : Cause) : Step α :=
  failAfter 1 cause

/-- Fails because of the shape of a value, without a position. -/
def mismatched (inner : Mismatch) : Step α :=
  throw ⟨none, .mismatch inner⟩

/-- Gives the fault of a reader the position where that stands, if it has none. -/
def located (body : Step α) : Step α := fun cursor =>
  match body cursor with
  | .ok result reached => .ok result reached
  | .error ⟨none, cause⟩ reached => .error ⟨some reached.position, cause⟩ reached
  | .error fault reached => .error fault reached

/-- Runs a reader and then another one, even if the first fails; its fault counts first. -/
def thenAlways (body : Step α) (closing : Step Unit) : Step α := fun cursor =>
  match body cursor with
  | .ok result reached =>
    match closing reached with
    | .ok _ behind => .ok result behind
    | .error fault behind => .error fault behind
  | .error fault reached =>
    match closing reached with
    | .ok _ behind => .error fault behind
    | .error _ behind => .error fault behind

/-! ## Moving -/

/-- Moves over a number of characters. -/
def pass (length : Nat) : Step Unit :=
  modify fun cursor =>
    ⟨cursor.rest.drop length,
      cursor.position.after (byteCount (cursor.rest.take length)) cursor.rest⟩

/-- Whether a character is blank between the parts of a value. -/
def isBlank (character : Char) : Bool :=
  character == ' ' || character == '\n' || character == '\t' || character == '\r'

/-- Moves over blanks; gives the character that follows. -/
def ahead : Step (Option Char) := do
  pass ((← get).rest.takeWhile isBlank).length
  return (← get).rest.head?

/-- Takes the result of a scan. -/
def accept (scan : List Char → Scan α) : Step α := do
  match scan (← get).rest with
  | .done value length =>
    pass length
    return value
  | .broken cause bytes => failAfter bytes cause

/-- Takes the rest of a literal, character by character. -/
def spell : List Char → Step Unit
  | [] => pure ()
  | wanted :: rest => do
    match (← get).rest.head? with
    | none => failHere .endInValue
    | some found =>
      if found == wanted then
        pass 1
        spell rest
      else failAfter 1 .wordExpected

/-- Takes a string behind its opening quote. -/
def stringRest : Step String := do
  return String.ofList (← accept (scanString false))

/-! ## Shapes that are not met -/

/-- Fails because another type of value stands here, after taking a simple value. -/
def wrongType (wanted : String) : Step α :=
  located do
    match (← get).rest.head? with
    | some 'n' =>
      spell "null".toList
      mismatched (.type .null wanted)
    | some 't' =>
      spell "true".toList
      mismatched (.type (.bool true) wanted)
    | some 'f' =>
      spell "false".toList
      mismatched (.type (.bool false) wanted)
    | some '"' =>
      pass 1
      let value ← stringRest
      mismatched (.type (.string value) wanted)
    | some '[' => mismatched (.type .sequence wanted)
    | some '{' => mismatched (.type .map wanted)
    | some character =>
      if character == '-' || isDigit character then
        let value ← accept scanNumber
        mismatched (.type (.number value) wanted)
      else failAhead .valueExpected
    | none => failAhead .valueExpected

/-- Reads a value that starts with a known character, behind blanks. -/
def startingWith (fits : Char → Bool) (wanted : String) (body : Step α) : Step α := do
  match ← ahead with
  | none => failAhead .endInValue
  | some character => located (if fits character then body else wrongType wanted)

/-! ## Members and elements -/

/-- Whether a further element follows in an array. -/
def hasElement (isFirst : Bool) : Step Bool := do
  match ← ahead with
  | none => failAhead .endInList
  | some ']' => return false
  | some ',' =>
    if isFirst then return true
    else
      pass 1
      match ← ahead with
      | none => failAhead .endInValue
      | some ']' => failAhead .trailingComma
      | some _ => return true
  | some _ => if isFirst then return true else failAhead .listEndExpected

/-- Ends an array. -/
def endArray : Step Unit := do
  match ← ahead with
  | none => failAhead .endInList
  | some ']' => pass 1
  | some ',' =>
    pass 1
    if (← ahead) == some ']' then failAhead .trailingComma else failAhead .trailingText
  | some _ => failAhead .trailingText

/-- Whether a further member follows in an object. -/
def hasMember (isFirst : Bool) : Step Bool := do
  match ← ahead with
  | none => failAhead .endInObject
  | some '}' => return false
  | some character =>
    if isFirst then
      if character == '"' then return true else failAhead .keyExpected
    else if character == ',' then
      pass 1
      match ← ahead with
      | none => failAhead .endInValue
      | some '"' => return true
      | some '}' => failAhead .trailingComma
      | some _ => failAhead .keyExpected
    else failAhead .objectEndExpected

/-- Takes the colon between a key and its value. -/
def colon : Step Unit := do
  match ← ahead with
  | none => failAhead .endInObject
  | some ':' => pass 1
  | some _ => failAhead .colonExpected

/-- Ends an object. -/
def endObject : Step Unit := do
  match ← ahead with
  | none => failAhead .endInObject
  | some '}' => pass 1
  | some ',' => failAhead .trailingComma
  | some _ => failAhead .trailingText

/-- Reads the elements of an array; the bound is the number of rounds. -/
def elementsFor (body : Step α) : Nat → Bool → Step (List α)
  | 0, _ => failHere .tooDeep
  | bound + 1, isFirst => do
    if ← hasElement isFirst then
      let element ← body
      return element :: (← elementsFor body bound false)
    else return []

/-- Reads the elements of an array behind its bracket. -/
def elements (body : Step α) : Step (List α) := do
  thenAlways (elementsFor body ((← get).rest.length + 1) true) endArray

/-- Reads the members of an object, given how to go on behind a key; the bound is the number of
rounds. -/
def membersFor (member : σ → String → Step σ) : Nat → Bool → σ → Step σ
  | 0, _, _ => failHere .tooDeep
  | bound + 1, isFirst, state => do
    if ← hasMember isFirst then
      pass 1
      let key ← stringRest
      membersFor member bound false (← member state key)
    else return state

/-- Reads the members of an object behind its bracket. -/
def members (member : σ → String → Step σ) (state : σ) (check : σ → Step α) : Step α := do
  thenAlways
    (do check (← membersFor member ((← get).rest.length + 1) true state))
    endObject

/-! ## Values that do not matter -/

/-- The kinds of brackets around an ignored value. -/
inductive Bracket where
  | array
  | object
deriving DecidableEq

/-- The fault of a text that ends inside brackets. -/
def Bracket.endCause : Bracket → Cause
  | array => .endInList
  | object => .endInObject

/-- Passes over a key and its colon inside an object. -/
def ignoreKey : Bracket → Step Unit
  | .array => pure ()
  | .object => do
    match ← ahead with
    | none => failAhead .endInObject
    | some '"' =>
      pass 1
      let _ ← accept (scanString true)
      colon
    | some _ => failAhead .keyExpected

/-- Goes on behind an ignored value inside brackets; gives the brackets around the next one. -/
def behindIgnored : List Bracket → Step (Option (List Bracket))
  | [] => return none
  | bracket :: outer => do
    match ← ahead with
    | none => failAhead bracket.endCause
    | some character =>
      if character == ',' then
        pass 1
        ignoreKey bracket
        return some (bracket :: outer)
      else
        match bracket, character with
        | .array, ']' | .object, '}' =>
          pass 1
          behindIgnored outer
        | .array, _ => failAhead .listEndExpected
        | .object, _ => failAhead .objectEndExpected

/-- Goes on behind an opening bracket; gives the brackets around the next value. -/
def behindOpening (bracket : Bracket) (outer : List Bracket) :
    Step (Option (List Bracket)) := do
  match bracket, ← ahead with
  | bracket, none => failAhead bracket.endCause
  | .array, some ']' | .object, some '}' =>
    pass 1
    behindIgnored outer
  | bracket, some _ =>
    ignoreKey bracket
    return some (bracket :: outer)

/-- Passes over values inside brackets; the bound is the number of rounds. -/
def ignoreFor : Nat → List Bracket → Step Unit
  | 0, _ => failHere .tooDeep
  | bound + 1, outer => do
    let following ← do
      match ← ahead with
      | none => failAhead .endInValue
      | some 'n' =>
        spell "null".toList
        behindIgnored outer
      | some 't' =>
        spell "true".toList
        behindIgnored outer
      | some 'f' =>
        spell "false".toList
        behindIgnored outer
      | some '"' =>
        pass 1
        let _ ← accept (scanString true)
        behindIgnored outer
      | some '[' =>
        pass 1
        behindOpening .array outer
      | some '{' =>
        pass 1
        behindOpening .object outer
      | some character =>
        if character == '-' || isDigit character then
          accept scanIgnoredNumber
          behindIgnored outer
        else failAhead .valueExpected
    match following with
    | some brackets => ignoreFor bound brackets
    | none => return

/-- Passes over a value. -/
def ignore : Step Unit := do
  ignoreFor ((← get).rest.length + 1) []

/-! ## Values -/

/-- How deep brackets may lie inside each other, counted with the text around them. -/
def deepest : Nat := 128

/-- Reads any value that lies inside fewer than the given number of brackets. -/
def value : Nat → Step Json
  | 0 => failAhead .tooDeep
  | depth + 1 => do
    match ← ahead with
    | none => failAhead .endInValue
    | some 'n' =>
      spell "null".toList
      return .null
    | some 't' =>
      spell "true".toList
      return .bool true
    | some 'f' =>
      spell "false".toList
      return .bool false
    | some '"' =>
      pass 1
      return .string (← stringRest)
    | some '[' =>
      if depth == 0 then failAhead .tooDeep
      else
        pass 1
        return .array (← elements (value depth))
    | some '{' =>
      if depth == 0 then failAhead .tooDeep
      else
        pass 1
        members
          (fun read key => do
            colon
            return putMember read key (← value depth))
          [] fun read => return .object read
    | some character =>
      if character == '-' || isDigit character then return .number (← accept scanNumber)
      else failAhead .valueExpected

/-- Reads an object as its members. -/
def object : Step (List (String × Json)) :=
  startingWith (· == '{') "a map" do
    pass 1
    members
      (fun read key => do
        colon
        return putMember read key (← value (deepest - 1)))
      [] pure

/-! ## Texts -/

/-- Requires the text to end here. -/
def finish : Step Unit := do
  match ← ahead with
  | none => return
  | some _ => failAhead .trailingText

/-- Reads a whole text. -/
def run (body : Step α) (text : List Char) : Except Fault α :=
  match (do
    let result ← body
    finish
    return result : Step α) ⟨text, ⟨1, 0⟩⟩ with
  | .ok result _ => .ok result
  | .error fault _ => .error fault

end Step

/-- The value that a text spells. -/
def ofText (text : List Char) : Except Fault Json :=
  (Step.value Step.deepest).run text

end Json
end KeyedText

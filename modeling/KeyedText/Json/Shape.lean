import KeyedText.Json.Reader

/-!
# Shapes of JSON values

What a program expects of a value can be met by a text, which is read from front to back, or by a
value that is already there.  A source offers the operations that both have; a description written
once over a source fits either.
-/

namespace KeyedText
namespace Json

/-- A field of a record that reads change. -/
structure Field (m : Type → Type) (σ : Type) where
  /-- The name of the field. -/
  name : String
  /-- Reads the value of the field into a record. -/
  read : σ → m σ
  /-- Whether the field has to be there. -/
  required : Bool

/-- The operations by which a value of a known shape is read. -/
structure Source (m : Type → Type) where
  /-- A text. -/
  text : m String
  /-- A truth value. -/
  flag : m Bool
  /-- A whole number that is not negative. -/
  natural : m Nat
  /-- One of several words. -/
  choice : List String → m String
  /-- A sequence. -/
  list : {α : Type} → m α → m (List α)
  /-- A record of a kind, by the names or the order of its fields; it starts from given values. -/
  record : {σ : Type} → String → List (Field m σ) → σ → m σ

/-- The mismatch of a number that is no natural one. -/
def naturalMismatch (value : JsonNumber) : Mismatch :=
  match value with
  | .negative _ => .value (.number value) "usize"
  | _ => .type (.number value) "usize"

/-- What a record that is given as a sequence should look like. -/
def Field.expectation (kind : String) (count : Nat) : String :=
  kind ++ " with " ++ toString count ++ " elements"

/-- The first required field that is not among the given names. -/
def Field.missing? (fields : List (Field m σ)) (seen : List String) : Option String :=
  (fields.find? fun field => field.required && !seen.contains field.name).map (·.name)

/-! ## Texts -/

namespace Step

/-- Reads a text. -/
def text : Step String :=
  startingWith (· == '"') "a string" do
    pass 1
    stringRest

/-- Reads a truth value. -/
def flag : Step Bool :=
  startingWith (fun character => character == 't' || character == 'f') "a boolean" do
    if (← get).rest.head? == some 't' then
      spell "true".toList
      return true
    else
      spell "false".toList
      return false

/-- Reads a whole number that is not negative. -/
def natural : Step Nat :=
  startingWith (fun character => character == '-' || isDigit character) "usize" do
    match ← accept scanNumber with
    | .natural value => return value
    | value => mismatched (naturalMismatch value)

/-- Reads the name of a choice. -/
def choiceName (choices : List String) : Step String :=
  startingWith (· == '"') "variant identifier" do
    pass 1
    let name ← stringRest
    if choices.contains name then return name else mismatched (.choice name choices)

/-- Reads the value null. -/
def unit : Step Unit :=
  startingWith (· == 'n') "unit" (spell "null".toList)

/-- Reads one of several words, which may be the only key of an object with the value null. -/
def choice (choices : List String) : Step String := do
  match ← ahead with
  | none => failAhead .endInValue
  | some '"' => choiceName choices
  | some '{' =>
    pass 1
    let name ← choiceName choices
    colon
    unit
    match ← ahead with
    | none => failHere .endInObject
    | some '}' =>
      pass 1
      return name
    | some _ => failHere .valueExpected
  | some _ => failAhead .valueExpected

/-- Reads a sequence. -/
def list (body : Step α) : Step (List α) :=
  startingWith (· == '[') "a sequence" do
    pass 1
    elements body

/-- Reads fields in their order; `index` fields were read. -/
def fieldsInOrder (expectation : String) (index : Nat) (isFirst : Bool) (state : σ) :
    List (Field Step σ) → Step σ
  | [] => return state
  | field :: rest => do
    if ← hasElement isFirst then
      fieldsInOrder expectation (index + 1) false (← field.read state) rest
    else if field.required then mismatched (.length index expectation)
    else fieldsInOrder expectation (index + 1) isFirst state rest

/-- Goes on behind a key of a record; the names of the fields that were read are kept. -/
def fieldNamed (fields : List (Field Step σ)) (state : List String × σ) (key : String) :
    Step (List String × σ) := do
  match fields.find? (·.name == key) with
  | none =>
    colon
    ignore
    return state
  | some field =>
    if state.1.contains key then mismatched (.repeated key)
    else
      colon
      return (key :: state.1, ← field.read state.2)

/-- Reads a record. -/
def record (kind : String) (fields : List (Field Step σ)) (start : σ) : Step σ :=
  startingWith (fun character => character == '[' || character == '{') kind do
    let isSequence := (← get).rest.head? == some '['
    pass 1
    if isSequence then
      thenAlways (fieldsInOrder (Field.expectation kind fields.length) 0 true start fields)
        endArray
    else
      members (fieldNamed fields) ([], start) fun (seen, state) =>
        match Field.missing? fields seen with
        | some name => mismatched (.missing name)
        | none => return state

end Step

/-- A text as a source. -/
def Source.reading : Source Step where
  text := Step.text
  flag := Step.flag
  natural := Step.natural
  choice := Step.choice
  list := Step.list
  record := Step.record

/-! ## Values -/

/-- A view of a value that can fail to have a shape. -/
abbrev View (α : Type) := ReaderT Json (Except Mismatch) α

namespace View

/-- Views a value as something of a wanted type, if it is that. -/
def through (wanted : String) (get? : Json → Option α) : View α := fun value =>
  match get? value with
  | some result => .ok result
  | none => .error (.type (found value) wanted)

/-- Views a value as a text. -/
def text : View String :=
  through "a string" fun value =>
    match value with
    | .string value => some value
    | _ => none

/-- Views a value as a truth value. -/
def flag : View Bool :=
  through "a boolean" fun value =>
    match value with
    | .bool value => some value
    | _ => none

/-- Views a value as a whole number that is not negative. -/
def natural : View Nat := fun value =>
  match value with
  | .number (.natural value) => .ok value
  | .number value => .error (naturalMismatch value)
  | other => .error (.type (found other) "usize")

/-- Views a value as one of several words, which may be the only key of an object with the value
null. -/
def choice (choices : List String) : View String := fun value =>
  let known (name : String) : Except Mismatch String :=
    if choices.contains name then .ok name else .error (.choice name choices)
  match value with
  | .string name => known name
  | .object [(name, inner)] => do
    let name ← known name
    match inner with
    | .null => return name
    | other => throw (.type (found other) "unit")
  | .object _ => .error (.value .map "map with a single key")
  | other => .error (.type (found other) "string or map")

/-- Views a value as a sequence. -/
def list (body : View α) : View (List α) := fun value =>
  match value with
  | .array elements => elements.mapM body
  | other => .error (.type (found other) "a sequence")

/-- Views elements as fields in their order; `index` fields were read. -/
def fieldsInOrder (kind : String) (count index : Nat) (state : σ) :
    List (Field View σ) → List Json → Except Mismatch σ
  | [], [] => .ok state
  | [], _ :: rest => .error (.length (index + 1 + rest.length) "fewer elements in array")
  | field :: fields, element :: rest => do
    fieldsInOrder kind count (index + 1) (← field.read state element) fields rest
  | field :: fields, [] =>
    if field.required then .error (.length index (Field.expectation kind count))
    else fieldsInOrder kind count (index + 1) state fields []

/-- Views members as fields by their names; the names of the fields that were read are kept. -/
def fieldsByName (fields : List (Field View σ)) (seen : List String) (state : σ) :
    List (String × Json) → Except Mismatch σ
  | [] =>
    match Field.missing? fields seen with
    | some name => .error (.missing name)
    | none => .ok state
  | (key, value) :: rest =>
    match fields.find? (·.name == key) with
    | none => fieldsByName fields seen state rest
    | some field => do
      if seen.contains key then throw (.repeated key)
      fieldsByName fields (key :: seen) (← field.read state value) rest

/-- Views a value as a record. -/
def record (kind : String) (fields : List (Field View σ)) (start : σ) : View σ := fun value =>
  match value with
  | .array elements => fieldsInOrder kind fields.length 0 start fields elements
  | .object members => fieldsByName fields [] start members
  | other => .error (.type (found other) kind)

end View

/-- A value as a source. -/
def Source.viewing : Source View where
  text := View.text
  flag := View.flag
  natural := View.natural
  choice := View.choice
  list := View.list
  record := View.record

end Json
end KeyedText

import KeyedText.Source.Grammar.Parameter

/-!
# Types

Types are read for two reasons: a text with a malformed type is no module, and a type can hold
expressions as computed keys.
-/

namespace KeyedText
namespace Source

open Reader

/-- Reads items separated by commas until a condition holds. -/
def separated (done : Reader Bool) (body : Reader α) : Reader (List α) :=
  repeating
    (fun (read : List α) => do
      if ← done then return .inr read.reverse
      else
        let read := (← body) :: read
        if ← accept .comma then return .inl read
        else if ← done then return .inr read.reverse
        else missing ",")
    []

/-! ## Arguments and parameters of types -/

/-- Whether a list of type arguments or parameters can start here. -/
def atTypeList : Reader Bool :=
  atAny [.less, .shiftLeft]

/-- Reads a list of type arguments. -/
def typeArguments : Reader (List Node) := do
  if ← at? .shiftLeft then cutTo .less
  expect .less
  let arguments ← separated (at? .greater) (descend .type)
  expect .greater
  return arguments

/-- Reads a parameter of a type; `variance` tells whether `in` and `out` may stand in front. -/
def typeParameter (variance : Bool) : Reader Node := do
  let start ← position
  let words := ["public", "private", "protected", "readonly", "abstract", "const", "override",
    "in", "out"]
  let _ ←
    repeating
      (fun (seen : List String) => do
        let here ← position
        match ← modifier? words with
        | none => return .inr ()
        | some word =>
          let fits :=
            word == "const"
              || (variance && !seen.contains word
                && (word == "in" && !seen.contains "out" || word == "out"))
          unless fits do noteAt here .badModifier
          return .inl (word :: seen))
      []
  let name ← anyName
  let bound ← if ← acceptWord "extends" then pure [← descend .type] else pure []
  let default ← if ← accept .assign then pure [← descend .type] else pure []
  node start .type (name :: bound ++ default)

/-- Reads the parameters of a type. -/
def typeParameters (variance : Bool) : Reader (List Node) := do
  expect .less
  let read ← separated (at? .greater) (typeParameter variance)
  expect .greater
  return read

/-- Reads the parameters of a type, if they stand here. -/
def typeParameters? (variance : Bool) : Reader (List Node) := do
  if ← at? .less then typeParameters variance else return []

/-- Reads a name of a type with its qualifiers. -/
def qualifiedName : Reader Node := do
  let start ← position
  let first ← anyName
  let names ←
    repeating
      (fun (read : List Node) => do
        if ← accept .dot then
          if ← at? .hash then note .nameExpected
          return .inl ((← anyName) :: read)
        else return .inr read.reverse)
      []
  node start .type (first :: names)

/-! ## Members of object types -/

/-- Ends a member of an object type. -/
def endTypeMember : Reader Unit := do
  unless ← accept .comma do expectStatementEnd

/-- Reads the type that a signature returns, behind its mark: a type or a predicate. -/
def returnedType : Reader Node := do
  let start ← position
  let asserts ← do
    if ← atWord "asserts" then
      next fun token newline =>
        match token with
        | .word name => !newline && (!isReserved name || name == "this")
        | _ => false
    else pure false
  if asserts then advance
  let predicate ← do
    if (← atName) || (← atWord "this") then
      next fun token newline => token == .word "is" && !newline
    else pure false
  if asserts || predicate then
    let subject ← anyName
    let inner ← do
      if ← acceptWord "is" then pure [← descend .type] else pure []
    node start .type (subject :: inner)
  else descend .type

/-- Reads the returned type behind a colon, if it stands here. -/
def returnedType? : Reader (List Node) := do
  if ← accept .colon then return [← returnedType]
  else return []

/-- Reads a call or construct signature. -/
def callSignature : Reader Node := do
  let start ← position
  let _ ← acceptWord "new"
  let generics ← typeParameters? false
  expect .openParen
  let arguments ← signatureParameters
  let returned ← returnedType?
  endTypeMember
  node start .type (generics ++ arguments ++ returned)

/-- Reads an index signature, if one stands here; `ended` tells how it ends. -/
def indexSignature? : Reader (Option Node) := do
  let isIndex ← ahead do
    expect .openBracket
    let _ ← anyName
    atAny [.colon, .comma]
  if (← at? .openBracket) && isIndex then
    let start ← position
    advance
    let name ← anyName
    if ← accept .comma then noteAt name.start .badType else expect .colon
    let keyType ← descend .type
    expect .closeBracket
    let valueType ← typeGiven?
    endTypeMember
    return some (← node start .type (name :: keyType :: valueType))
  else return none

/-- Reads a getter or setter of an object type, if one stands here. -/
def accessorSignature? (readonly : Bool) : Reader (Option Node) :=
  attempt do
    let start ← position
    if readonly then fail .badModifier
    let getter ← acceptWord "get"
    unless getter do expectWord "set"
    let (key, _) ← propertyKey
    expect .openParen
    if getter then
      expect .closeParen
      let typed ← typeGiven?
      endTypeMember
      return some (← node start .type (key :: typed))
    else
      let arguments ← signatureParameters
      if arguments.isEmpty then fail .badParameters
      endTypeMember
      return some (← node start .type (key :: arguments))

/-- Reads a member of an object type. -/
def typeMember : Reader Node := do
  let start ← position
  let constructs ← do
    if ← atWord "new" then
      next fun token _ => token == .mark .openParen || token == .mark .less
    else pure false
  if constructs || (← atAny [.openParen, .less]) then callSignature
  else
    let readonly := (← modifier? ["readonly"]).isSome
    match ← indexSignature? with
    | some member => return member
    | none =>
      match ← accessorSignature? readonly with
      | some member => return member
      | none =>
        let (key, _) ← propertyKey
        let _ ← accept .question
        if ← atAny [.openParen, .less] then
          if readonly then fail .badModifier
          let generics ← typeParameters? false
          expect .openParen
          let arguments ← signatureParameters
          let returned ← returnedType?
          endTypeMember
          node start .type (key :: generics ++ arguments ++ returned)
        else
          let typed ← typeGiven?
          endTypeMember
          node start .type (key :: typed)

/-- Reads the members of an object type between braces. -/
def typeMembers : Reader Node := do
  let start ← position
  expect .openBrace
  let members ← many (at? .closeBrace) typeMember
  expect .closeBrace
  node start .type members

/-- Whether a mapped type starts here. -/
def atMappedType : Reader Bool :=
  ahead do
    expect .openBrace
    if ← atAny [.plus, .minus] then
      advance
      atWord "readonly"
    else
      let _ ← acceptWord "readonly"
      expect .openBracket
      let _ ← anyName
      atWord "in"

/-- Reads a mapped type. -/
def mappedType : Reader Node := do
  let start ← position
  expect .openBrace
  if ← atAny [.plus, .minus] then
    advance
    expectWord "readonly"
  else
    let _ ← acceptWord "readonly"
  expect .openBracket
  let name ← anyName
  expectWord "in"
  let keys ← descend .type
  let renamed ← if ← acceptWord "as" then pure [← descend .type] else pure []
  expect .closeBracket
  if ← atAny [.plus, .minus] then
    advance
    expect .question
  else
    let _ ← accept .question
  let values ← typeGiven?
  expectStatementEnd
  expect .closeBrace
  node start .type (name :: keys :: renamed ++ values)

/-! ## Types -/

/-- An element of a tuple type. -/
structure TupleElement where
  /-- The element. -/
  node : Node
  /-- Whether it stands for the rest of the tuple. -/
  isRest : Bool
  /-- Whether its type is marked as optional. -/
  isOptional : Bool

/-- Reads an element of a tuple type, which can have a name. -/
def tupleElement : Reader TupleElement := do
  let start ← position
  let dotted ← accept .ellipsis
  let name ← attempt do
    let name ← anyName
    let _ ← accept .question
    expect .colon
    return some name
  let element ← descend .type
  let isOptional ← accept .question
  return ⟨← node start .type (name.toList ++ [element]), dotted && name.isNone, isOptional⟩

/-- Reads a tuple type.  Behind an optional element every one is optional, or stands for the
rest. -/
def tupleType : Reader Node := do
  let start ← position
  expect .openBracket
  let elements ← separated (at? .closeBracket) tupleElement
  expect .closeBracket
  let behind := elements.dropWhile fun element => !element.isOptional
  unless behind.all fun element => element.isOptional || element.isRest do failAt start .badType
  node start .type (elements.map (·.node))

/-- The words that are types by themselves. -/
def keywordTypes : List String :=
  ["void", "null", "undefined", "any", "unknown", "number", "object", "boolean", "bigint",
   "string", "symbol", "never", "intrinsic", "true", "false"]

/-- Reads a type with a name and its arguments. -/
def namedType : Reader Node := do
  let start ← position
  let name ← qualifiedName
  if !(← onNewLine) && (← atTypeList) then
    let arguments ← typeArguments
    node start .type (name :: arguments)
  else return name

/-- Reads a type of an imported module. -/
def importType : Reader Node := do
  let start ← position
  expectWord "import"
  expect .openParen
  unless ← atString do note .badType
  let source ← leaf .type
  let options ← do
    if ← accept .comma then
      if ← at? .openBrace then pure [← descend .assignment] else pure []
    else pure []
  expect .closeParen
  let qualifier ← if ← accept .dot then pure [← qualifiedName] else pure []
  let arguments ← if ← at? .less then typeArguments else pure []
  node start .type (source :: options ++ qualifier ++ arguments)

/-- Reads the type of a value. -/
def typeQuery : Reader Node := do
  let start ← position
  expectWord "typeof"
  let subject ← if ← atWord "import" then importType else qualifiedName
  let arguments ← if !(← onNewLine) && (← at? .less) then typeArguments else pure []
  node start .type (subject :: arguments)

/-- Reads a type without array brackets behind it. -/
def simpleType : Reader Node := do
  let start ← position
  match ← token with
  | .word name =>
    if name == "import" then importType
    else if name == "typeof" then typeQuery
    else if name == "this" then
      let receiver ← leaf .type
      if ← onNewLine then return receiver
      else if ← acceptWord "is" then
        let inner ← descend .type
        node start .type [inner]
      else return receiver
    else if keywordTypes.contains name && !(← nextIs .dot) then leaf .type
    else namedType
  | .string _ | .number _ => leaf .type
  | .mark .minus =>
    advance
    if ← atNumber then
      advance
      node start .type []
    else unexpected "numeric literal or bigint literal"
  | .mark .backquote =>
    let (_, inners) ← templateParts false (descend .type)
    node start .type inners
  | .mark .openBrace => if ← atMappedType then mappedType else typeMembers
  | .mark .openBracket => tupleType
  | .mark .openParen =>
    advance
    let inner ← descend .type
    expect .closeParen
    node start .type [inner]
  | _ => unexpected "a type"

/-- Reads a type with array brackets and indices behind it. -/
def arrayType : Reader Node := do
  let start ← position
  let first ← simpleType
  repeating
    (fun (inner : Node) => do
      if ← onNewLine then return .inr inner
      else if ← accept .openBracket then
        if ← accept .closeBracket then return .inl (← node start .type [inner])
        else
          let index ← descend .type
          expect .closeBracket
          return .inl (← node start .type [inner, index])
      else return .inr inner)
    first

/-- Reads the variable of a conditional type. -/
def inferredType : Reader Node := do
  let start ← position
  expectWord "infer"
  let name ← anyName
  let bound ← attempt do
    expectWord "extends"
    let bound ← descend .plainType
    if (← scope).plainTypes || !(← at? .question) then return some bound else return none
  node start .type (name :: bound.toList)

/-- Reads a type with its unary operators. -/
def typeOperator : Reader Node := do
  let start ← position
  if ← atAnyWord ["keyof", "unique", "readonly"] then
    advance
    let inner ← descend .typeOperator
    node start .type [inner]
  else if ← atWord "infer" then inferredType
  else arrayType

/-- Reads types joined by a mark, which can also stand in front of the first. -/
def joinedTypes (mark : Mark) (member : Reader Node) : Reader Node := do
  let start ← position
  let _ ← accept mark
  let first ← member
  let others ←
    repeating
      (fun (read : List Node) => do
        if ← accept mark then return .inl ((← member) :: read)
        else return .inr read.reverse)
      []
  if others.isEmpty then return first else node start .type (first :: others)

/-- Whether the start of a parameter stands here, which is skipped. -/
def skipParameterStart : Reader Bool := do
  let _ ← parameterModifier?
  match ← token with
  | .word _ =>
    advance
    return true
  | .mark .openBrace | .mark .openBracket =>
    let _ ← descend .bindingTarget
    return true
  | _ => return false

/-- Whether a function type starts here. -/
def atFunctionType : Reader Bool := do
  if ← at? .less then return true
  else if ← at? .openParen then
    ahead do
      advance
      if ← atAny [.closeParen, .ellipsis] then return true
      else if ← skipParameterStart then
        if ← atAny [.colon, .comma, .question, .assign] then return true
        else if ← accept .closeParen then at? .arrow
        else return false
      else return false
  else return false

/-- Reads the type of a function or constructor. -/
def functionType : Reader Node := do
  let start ← position
  let _ ← acceptWord "abstract"
  let _ ← acceptWord "new"
  let generics ← typeParameters? false
  expect .openParen
  let arguments ← signatureParameters
  expect .arrow
  let returned ← returnedType
  node start .type (generics ++ arguments ++ [returned])

/-- Reads a type that is not conditional. -/
def plainType : Reader Node := do
  let constructs ← do
    if ← atWord "new" then pure true
    else if ← atWord "abstract" then nextIsWord "new"
    else pure false
  if constructs || (← atFunctionType) then functionType
  else joinedTypes .bitOr (joinedTypes .bitAnd typeOperator)

/-- Reads a type. -/
def typeExpression : Reader Node := do
  let start ← position
  let checked ← inScope (fun scope => { scope with plainTypes := false }) plainType
  if (← onNewLine) || !(← atWord "extends") then return checked
  else
    advance
    let bound ← inScope (fun scope => { scope with plainTypes := true }) (descend .plainType)
    expect .question
    let yes ← descend .type
    expect .colon
    let no ← descend .type
    node start .type [checked, bound, yes, no]

end Source
end KeyedText

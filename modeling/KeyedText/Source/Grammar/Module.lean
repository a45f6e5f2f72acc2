import KeyedText.Source.Grammar.Statement

/-!
# Imports and exports

An item of a module is an import, an export or a statement.  The attributes of an import are read
as an object.
-/

namespace KeyedText
namespace Source

open Reader

/-! ## Sources and names -/

/-- Reads the text that names a module. -/
def moduleText : Reader Node := do
  match ← token with
  | .string value => leaf (.string value)
  | _ => unexpected "a string literal"

/-- Reads the attributes of an import, if there are any, and ends the statement. -/
def endImport : Reader (List Node) := do
  let follows ← do
    if ← onNewLine then pure false
    else if ← acceptWord "assert" then pure true
    else acceptWord "with"
  let attributes ← do
    if follows then
      require .openBrace
      pure [← object]
    else pure []
  expectStatementEnd
  return attributes

/-- Reads where something is imported from, up to the end of the statement. -/
def sourceClause : Reader (List Node) := do
  expectWord "from"
  let text ← moduleText
  return text :: (← endImport)

/-- Reads a name that an import binds. -/
def importedName : Reader Node :=
  inScope (fun scope => { scope with inAsync := false, inGenerator := false }) bindingName

/-- Reads a word or text that names what a module offers. -/
def offeredName : Reader Node := do
  match ← token with
  | .string value => leaf (.string value)
  | .word name => leaf (.identifier name)
  | _ => unexpected "identifier or string"

/-- Whether a word stands here. -/
def wordHere : Reader Bool := do
  return (← word?).isSome

/-- Whether a node is a given word. -/
def isWord (word : String) (node : Node) : Bool :=
  match node.form with
  | .identifier name => name == word
  | _ => false

/-! ## Specifiers -/

/-- How a specifier that starts with `type` goes on. -/
inductive TypeMark where
  /-- The word marks the name that follows it. -/
  | marks (name : Node)
  /-- The specifier is complete. -/
  | complete (parts : List Node)

/-- Reads what stands behind a leading `type` in a specifier; `again` reads the name behind the
first `as`. -/
def behindTypeMark (first : Node) (again : Reader Node) : Reader TypeMark := do
  let second ← anyName
  unless isWord "as" second do return .marks second
  unless ← wordHere do return .complete [second]
  let third ← again
  if isWord "as" third && (← wordHere) then return .complete [second, ← again]
  else return .complete [first, third]

/-- Reads a name that an import takes from a module. -/
def importSpecifier : Reader Node := do
  let start ← position
  let first ← offeredName
  match first.form with
  | .string _ =>
    if ← acceptWord "as" then
      let bound ← bindingName
      node start .declaration [first, bound]
    else failAt start .badModuleBinding
  | _ =>
    let mark ← do
      if isWord "type" first && (← wordHere) then behindTypeMark first bindingName
      else pure (.marks first)
    match mark with
    | .complete parts => node start .declaration parts
    | .marks name =>
      if ← acceptWord "as" then
        let bound ← bindingName
        node start .declaration [name, bound]
      else
        match name.form with
        | .identifier spelled =>
          if isReservedInModule spelled then failAt name.start .badModuleBinding
        | _ => pure ()
        node start .declaration [name]

/-- Reads a name that an export offers, with the first of its names. -/
def exportSpecifier : Reader Node := do
  let start ← position
  let first ← offeredName
  let mark ← do
    if isWord "type" first && (← wordHere) then behindTypeMark first anyName
    else pure (.marks first)
  match mark with
  | .complete parts => node start .declaration parts
  | .marks name =>
    if ← acceptWord "as" then
      let offered ← offeredName
      node start .declaration [name, offered]
    else node start .declaration [name]

/-- Reads specifiers in braces. -/
def specifiers (specifier : Reader Node) : Reader (List Node) := do
  expect .openBrace
  let read ← separated (at? .closeBrace) specifier
  expect .closeBrace
  return read

/-! ## Imports -/

/-- Reads what a name is an alias for, from the equals sign on. -/
def importAlias (start : Nat) (name : Node) : Reader Node := do
  expect .assign
  let external ← do if ← atWord "require" then nextIs .openParen else pure false
  let meaning ← do
    if external then
      advance
      expect .openParen
      let text ← moduleText
      expect .closeParen
      pure text
    else qualifiedName
  expectStatementEnd
  node start .declaration [name, meaning]

/-- Reads the bindings in braces or behind a star, if there are any, and the source. -/
def importRest (start : Nat) (bound : List Node) : Reader Node := do
  let more ← do
    if ← accept .star then
      expectWord "as"
      pure [← importedName]
    else if ← at? .openBrace then specifiers importSpecifier
    else pure []
  let source ← sourceClause
  node start .declaration (bound ++ more ++ source)

/-- Whether the name that stands here is bound itself, although a word that can mark an import
stands in front of it. -/
def bindsBehindMark : Reader Bool := do
  if ← atName then
    if ← atWord "from" then nextIsWord "from" else return true
  else return false

/-- Reads an import that binds a name first. -/
def namedImport (start : Nat) : Reader Node := do
  let first ← importedName
  let name ← do
    if isWord "type" first then
      if ← atAny [.openBrace, .star] then pure none
      else if ← bindsBehindMark then pure (some (← importedName))
      else if (← atName) && (← nextIs .assign) then pure (some (← anyName))
      else pure (some first)
    else pure (some first)
  match name with
  | none => importRest start []
  | some name =>
    if ← at? .assign then importAlias start name
    else
      let phased := isWord "source" name || isWord "defer" name
      if phased && (← atAny [.openBrace, .star]) then importRest start []
      else
        let bound ← do
          if phased && (← bindsBehindMark) then importedName else pure name
        unless ← atWord "from" do expect .comma
        importRest start [bound]

/-- Reads an import, or an expression that starts with that word. -/
def importItem : Reader Node := do
  let start ← position
  if ← next fun token _ => token == .mark .openParen || token == .mark .dot then
    let read ← freeExpression
    let _ ← acceptStatementEnd
    node start .expressionStatement [read]
  else
    expectWord "import"
    if ← atString then
      let text ← moduleText
      let attributes ← endImport
      node start .declaration (text :: attributes)
    else if ← atName then namedImport start
    else importRest start []

/-! ## Exports -/

/-- Whether a function that is asynchronous stands here. -/
def atAsyncFunction : Reader Bool := do
  if ← atWord "async" then
    next fun token newline => token == .word "function" && !newline
  else return false

/-- Reads what a module offers as its default, behind the keyword. -/
def exportedDefault : Reader Node := do
  let here ← position
  let abstractClass ← do
    if ← atWord "abstract" then
      next fun token newline => token == .word "class" && !newline
    else pure false
  if abstractClass then
    advance
    return ← classFrom here false true false
  if ← (do if ← atWord "abstract" then nextIsWord "interface" else pure false) then
    note .badModifier
    advance
  if ← atWord "interface" then keyworded interface
  else if ← atWord "class" then classFrom here false false false
  else if (← atAsyncFunction) || (← atWord "function") then functionHere false false
  else
    let value ← inScope freeScope (descend .assignment)
    expectStatementEnd
    return value

/-- Notes the exported names that no variable can have, because no source is given. -/
def checkLocalNames (exported : List Node) : Reader Unit := do
  for specifier in exported do
    match specifier.parts with
    | .mk (.identifier name) span _ :: _ =>
      if isReserved name || name == "package" then noteAt span.start .badModuleBinding
    | .mk (.string _) span _ :: _ => noteAt span.start .badModuleBinding
    | _ => pure ()

/-- Reads the names that a module offers, or a star. -/
def exportedNames (start : Nat) : Reader Node := do
  if ← at? .star then
    let named ← nextIsWord "as"
    advance
    let name ← do
      if named then
        advance
        pure [← offeredName]
      else pure []
    let source ← sourceClause
    node start .declaration (name ++ source)
  else
    let exported ← specifiers exportSpecifier
    if ← atWord "from" then
      let source ← sourceClause
      node start .declaration (exported ++ source)
    else
      checkLocalNames exported
      let _ ← acceptStatementEnd
      node start .declaration exported

/-- Whether a declaration of variables stands here. -/
def atVariables : Reader Bool := do
  if ← atWord "let" then letDeclares else atAnyWord ["var", "const"]

/-- Reads a declaration that an export offers, if one stands here. -/
def exportedDeclaration? : Reader (Option Node) := do
  let start ← position
  if ← atWord "class" then return some (← classFrom start true false false)
  else if (← atAsyncFunction) || (← atWord "function") then return some (← functionHere false true)
  else if ← (do if ← atWord "const" then nextIsWord "enum" else pure false) then
    advance
    return some (← keyworded enumeration)
  else if ← atVariables then
    return some (← inScope freeScope (variableDeclaration false)).1
  else return none

/-- Reads a declaration that a word of the type language introduces, if one stands here. -/
def exportedWord? : Reader (Option Node) := do
  let start ← position
  match ← word? with
  | some word => attempt (wordDeclaration? start word true)
  | none => return none

/-- Reads an export. -/
def exportItem : Reader Node := do
  let start ← position
  expectWord "export"
  if ← atFinish then fail .endOfText
  let inner ← position
  if ← acceptWord "declare" then
    match ← ambientDeclaration? inner with
    | some declared => return ← node start .declaration [declared]
    | none => pure ()
  match ← exportedWord? with
  | some declared => node start .declaration [declared]
  | none =>
    if ← acceptWord "import" then
      let typeOnly ← do
        if ← atWord "type" then next fun token _ => token matches .word _ else pure false
      if typeOnly then advance
      importAlias start (← anyName)
    else if ← accept .assign then
      let value ← freeExpression
      expectStatementEnd
      node start .declaration [value]
    else if ← acceptWord "as" then
      expectWord "namespace"
      let name ← variableName
      expectStatementEnd
      node start .declaration [name]
    else if ← acceptWord "type" then exportedNames start
    else if ← acceptWord "default" then
      let value ← exportedDefault
      node start .declaration [value]
    else
      match ← exportedDeclaration? with
      | some declared => node start .declaration [declared]
      | none => exportedNames start

/-! ## Items -/

/-- Reads an item of a module or namespace. -/
def item : Reader Node := do
  if ← atWord "import" then importItem
  else if ← atWord "export" then exportItem
  else statement true

end Source
end KeyedText

import KeyedText.Source.Grammar.Expression

/-!
# Declarations

Variables, enumerations, interfaces, type names and namespaces.  Behind `declare` they only
describe what exists elsewhere.
-/

namespace KeyedText
namespace Source

open Reader

/-! ## Defaults outside patterns -/

mutual

/-- The default values in an expression that only a pattern can have, functions aside. -/
def strayDefaults : Node → List Nat
  | .mk (.shorthandDefault _) span parts => span.start :: strayDefaultsOfAll parts
  | .mk .function _ _ => []
  | .mk .arrow _ _ => []
  | .mk _ _ parts => strayDefaultsOfAll parts
termination_by structural node => node

/-- The default values in several expressions that only a pattern can have. -/
def strayDefaultsOfAll : List Node → List Nat
  | [] => []
  | node :: rest => strayDefaults node ++ strayDefaultsOfAll rest
termination_by structural nodes => nodes

end

/-- Notes the default values in an expression that only a pattern can have. -/
def checkDefaults (expression : Node) : Reader Unit :=
  (strayDefaults expression).forM fun start => noteAt start .defaultOutsidePattern

/-! ## Variables -/

/-- The declaration of a variable or pattern, and what the head of a loop has to know of it. -/
structure Declarator where
  /-- The declaration. -/
  node : Node
  /-- Whether a type is given. -/
  hasType : Bool
  /-- Whether a value is given. -/
  hasValue : Bool

/-- Whether a name was bound, rather than a pattern. -/
def isName (target : Node) : Bool :=
  match target.form with
  | .identifier _ => true
  | _ => false

/-- Reads the declaration of a variable or pattern; `keyword` introduced it. -/
def declarator (keyword : String) (inHead : Bool) : Reader Declarator := do
  let start ← position
  if keyword != "var" && (← atWord "let") then unexpected "a name other than let"
  let target ← descend .bindingTarget
  if isName target then
    let _ ← accept .bang
  let typed ← typeGiven?
  let inLoop ← atAnyWord ["in", "of"]
  let value ← do
    if inHead && inLoop then pure []
    else if ← accept .assign then
      let value ← descend .assignment
      checkDefaults value
      pure [value]
    else if (← scope).ambient then pure []
    else if keyword == "const" && !inHead then
      noteAt start .constantWithoutValue
      pure []
    else if isName target then pure []
    else failAt start .patternWithoutValue
  let node ← node start .binding (target :: typed ++ value)
  return ⟨node, !typed.isEmpty, !value.isEmpty⟩

/-- Goes on to the end of a statement. -/
def skipStatement : Reader Unit := do
  recover (do let _ ← descend .expression) fun _ => pure ()
  repeating
    (fun (_ : Unit) => do
      match ← token with
      | .broken _ => return .inr ()
      | _ =>
        if ← acceptStatementEnd then return .inr ()
        else
          advance
          return .inl ())
    ()

/-- Reads declarations separated by commas. -/
def declarators (keyword : String) (inHead : Bool) : Reader (List Declarator) :=
  repeating
    (fun (read : List Declarator) => do
      if (← at? .semicolon) || (← atFinish) then
        noteAt (← get).previousStart .nameExpected
        return .inr read.reverse
      else
        let takesIn := keyword != "var" || !inHead
        let next ←
          inScope (fun scope => { scope with inOperator := scope.inOperator || takesIn })
            (declarator keyword inHead)
        if ← accept .comma then return .inl (next :: read)
        else return .inr (next :: read).reverse)
    []

/-- Reads a declaration of variables from its keyword on. -/
def variableDeclaration (inHead : Bool) : Reader (Node × List Declarator) := do
  let start ← position
  let keyword := (← word?).getD ""
  advance
  let read ← declarators keyword inHead
  unless inHead do
    unless ← acceptStatementEnd do
      note .statementEndExpected
      skipStatement
  return (← node start .variableDeclaration (read.map (·.node)), read)

/-- Reads a `using` declaration, whose keyword may be preceded by `await`, if one stands here. -/
def usingDeclaration? (start : Nat) : Reader (Option Node) := do
  let fits ← next fun token newline =>
    match token with
    | .word name => !newline && !isReserved name
    | _ => false
  if fits then
    advance
    let read ← declarators "using" false
    unless ← acceptStatementEnd do note .statementEndExpected
    unless (← scope).usingAllowed do noteAt start .badUsing
    for declarator in read do
      let named := declarator.node.parts.head?.any isName
      unless named && declarator.hasValue do noteAt declarator.node.start .badUsing
    return some (← node start .variableDeclaration (read.map (·.node)))
  else return none

/-! ## Enumerations, interfaces and type names -/

/-- Reads a member of an enumeration. -/
def enumMember : Reader Node := do
  let start ← position
  let key ← do
    match ← token with
    | .string value => leaf (.string value)
    | .number _ =>
      note .badEnumMember
      leaf .literal
    | .mark .openBracket =>
      advance
      let inner ← descend .expression
      match inner.form with
      | .string _ => pure ()
      | _ => noteAt start .badEnumMember
      expect .closeBracket
      node start .binding [inner]
    | _ => anyName
  let value ← do
    if ← accept .assign then pure [← descend .assignment]
    else if ← atAny [.comma, .closeBrace] then pure []
    else
      note .badEnumMember
      advance
      pure []
  node start .declaration (key :: value)

/-- Reads the members of an enumeration; a missing comma is noted. -/
def enumMembers : Reader (List Node) :=
  repeating
    (fun (read : List Node) => do
      if ← at? .closeBrace then return .inr read.reverse
      else if ← atFinish then missing "\x7d"
      else
        let member ← enumMember
        if ← accept .comma then pure ()
        else unless ← at? .closeBrace do note (.expected "," (← token).spelling)
        return .inl (member :: read))
    []

/-- Reads an enumeration behind its keyword. -/
def enumeration (start : Nat) : Reader Node := do
  let name ← anyName
  expect .openBrace
  let members ← enumMembers
  expect .closeBrace
  node start .declaration (name :: members)

/-- Notes a declared name that the type language reserves. -/
def checkTypeName (name : Node) : Reader Unit := do
  match name.form with
  | .identifier spelled =>
    if spelled != "undefined" && reservedTypeNames.contains spelled then
      noteAt name.start .reservedTypeName
  | _ => pure ()

/-- Reads an interface behind its keyword. -/
def interface (start : Nat) : Reader Node := do
  let name ← anyName
  checkTypeName name
  let generics ← typeParameters? true
  let parents ← if ← acceptWord "extends" then heritageList else pure []
  if ← atWord "extends" then
    note .badHeritage
    let _ ←
      many (do return (← atFinish) || (← at? .openBrace)) (leaf .type)
  let members ← typeMembers
  node start .declaration (name :: generics ++ parents ++ [members])

/-- Reads the declaration of a name for a type behind its keyword. -/
def typeAlias (start : Nat) : Reader Node := do
  let name ← anyName
  let generics ← typeParameters? true
  expect .assign
  let meaning ← descend .type
  expectStatementEnd
  node start .declaration (name :: generics ++ [meaning])

/-! ## Namespaces -/

/-- Reads items up to a closing brace. -/
def itemBlock : Reader Node := do
  let start ← position
  expect .openBrace
  let items ←
    inScope (fun scope => { scope with inNamespace := true, topLevel := false })
      (repeating
        (fun (read : List Node) => do
          if ← accept .closeBrace then return .inr read.reverse
          else if ← atFinish then
            note (.expected "\x7d" "<eof>")
            return .inr read.reverse
          else return .inl ((← descend .item) :: read))
        [])
  node start .block items

/-- Reads a namespace behind its keyword. -/
def namespaceDeclaration (start : Nat) : Reader Node := do
  let name ← qualifiedName
  let body ← itemBlock
  node start .declaration [name, body]

/-- Reads the description of a module with a text for a name, or of the global scope. -/
def ambientModule (start : Nat) : Reader Node := do
  unless (← atString) || (← atWord "global") do unexpected "global or a string literal"
  let name ← leaf .literal
  if ← at? .openBrace then
    let body ← itemBlock
    node start .declaration [name, body]
  else
    expectStatementEnd
    node start .declaration [name]

/-! ## Declarations that a word introduces -/

/-- Reads the declaration that a word introduces, if it does.  The word stands here if `here`
holds, and has been taken otherwise; in the first case it must introduce a declaration. -/
def wordDeclaration? (start : Nat) (word : String) (here : Bool) : Reader (Option Node) := do
  let follows ← if here then pure true else atName
  match word with
  | "abstract" =>
    if here || ((← atWord "class") && !(← onNewLine)) then
      if here then advance
      return some (← classFrom start true true false)
    else return none
  | "enum" =>
    if follows then
      if here then advance
      return some (← enumeration start)
    else return none
  | "interface" =>
    if follows then
      if here then advance
      return some (← interface start)
    else return none
  | "module" =>
    if ← onNewLine then return none
    else
      if here then advance
      if ← atString then return some (← ambientModule start)
      else if follows then return some (← namespaceDeclaration start)
      else return none
  | "namespace" =>
    if follows then
      if here then advance
      return some (← namespaceDeclaration start)
    else return none
  | "type" =>
    if here || (follows && !(← onNewLine)) then
      if here then advance
      return some (← typeAlias start)
    else return none
  | _ => return none

/-- Reads what `declare` describes, behind that word, if it describes anything. -/
def ambientDeclaration? (start : Nat) : Reader (Option Node) :=
  inScope (fun scope => { scope with ambient := true }) do
    match ← token with
    | .word "function" => return some (← functionFrom start false false true)
    | .word "class" => return some (← classFrom start true false false)
    | .word "const" =>
      if ← nextIsWord "enum" then
        advance
        advance
        return some (← enumeration start)
      else return some (← variableDeclaration false).1
    | .word "var" | .word "let" => return some (← variableDeclaration false).1
    | .word "global" => return some (← ambientModule start)
    | .word word => wordDeclaration? start word true
    | _ => return none

end Source
end KeyedText

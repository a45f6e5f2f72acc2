import KeyedText.Source.Grammar.Declaration

/-!
# Statements

A statement that starts with a word can be a declaration, a labelled statement or an expression;
the words that only sometimes are keywords are read as expressions first.
-/

namespace KeyedText
namespace Source

open Reader

/-- The scope of an expression that stands by itself. -/
def freeScope (scope : Scope) : Scope :=
  { scope with inOperator := true, colonAhead := false, inConditional := false }

/-- Reads an expression that stands by itself. -/
def freeExpression : Reader Node :=
  inScope freeScope (descend .expression)

/-- Reads an expression in parentheses behind a keyword. -/
def headExpression : Reader Node := do
  expect .openParen
  let read ← freeExpression
  expect .closeParen
  return read

/-- Reads a statement that belongs to another one. -/
def innerStatement (change : Scope → Scope) : Reader Node :=
  inScope (fun scope => change { scope with topLevel := false }) (descend (.statement false))

/-- The scope of the body of a loop. -/
def loopScope (scope : Scope) : Scope :=
  { scope with breaks := true, continues := true }

/-! ## Branches -/

/-- Reads an `if` statement behind its keyword. -/
def ifStatement (start : Nat) : Reader Node := do
  let test ← headExpression
  let yes ← innerStatement id
  let no ← if ← acceptWord "else" then pure [← innerStatement id] else pure []
  node start .statement (test :: yes :: no)

/-- Reads the statements of a clause of a switch. -/
def clauseStatements : Reader (List Node) :=
  inScope (fun scope => { scope with topLevel := false })
    (many
      (do return (← atAnyWord ["case", "default"]) || (← at? .closeBrace) || (← atFinish))
      (descend (.statement true)))

/-- Reads a `switch` statement behind its keyword. -/
def switchStatement (start : Nat) : Reader Node := do
  let subject ← headExpression
  expect .openBrace
  let (clauses, _) ←
    inScope (fun scope => { scope with breaks := true })
      (repeating
        (fun (state : List Node × Bool) => do
          let (read, hasDefault) := state
          if ← acceptWord "case" then
            let test ← freeExpression
            expect .colon
            let body ← clauseStatements
            return .inl (body.reverse ++ test :: read, hasDefault)
          else if ← acceptWord "default" then
            if hasDefault then fail .secondDefault
            expect .colon
            let body ← clauseStatements
            return .inl (body.reverse ++ read, true)
          else return .inr (read.reverse, hasDefault))
        ([], false))
  expect .closeBrace
  node start .statement (subject :: clauses)

/-! ## Loops -/

/-- Reads the rest of a counting loop's head. -/
def countingHead : Reader (List Node) := do
  let test ← do
    if ← accept .semicolon then pure []
    else
      let test ← freeExpression
      expect .semicolon
      pure [test]
  let step ← if ← at? .closeParen then pure [] else pure [← freeExpression]
  return test ++ step

/-- Reads the source of the values of a loop; answers whether it is read with `of`. -/
def sourceHead : Reader (Node × Bool) := do
  if ← acceptWord "of" then
    return (← inScope freeScope (descend .assignment), true)
  else
    expectWord "in"
    return (← freeExpression, false)

/-- Notes variables that the head of a loop over values cannot declare. -/
def checkHeadVariables (read : List Declarator) : Reader Unit := do
  match read with
  | [only] => if only.hasValue || only.hasType then noteAt only.node.start .badLoopHead
  | _ => for extra in read.drop 1 do noteAt extra.node.start .badLoopHead

/-- Reads the head of a `for` loop between its parentheses; answers whether it goes over values
with `of`. -/
def forHead : Reader (List Node × Bool) := do
  let declares ← do
    if ← atAnyWord ["const", "var"] then pure true
    else if ← atWord "let" then
      next fun token _ =>
        match token with
        | .word _ | .mark .openBracket | .mark .openBrace => true
        | _ => false
    else pure false
  if declares then
    let (declared, read) ←
      inScope (fun scope => { scope with inOperator := false }) (variableDeclaration true)
    if ← atAnyWord ["of", "in"] then
      checkHeadVariables read
      let (source, isOf) ← sourceHead
      return ([declared, source], isOf)
    else
      expect .semicolon
      return (declared :: (← countingHead), false)
  else if ← accept .semicolon then return (← countingHead, false)
  else
    let start ← position
    let usesHere ← atWord "using"
    let usesNext ← do if ← atWord "await" then nextIsWord "using" else pure false
    let named ← do
      if usesHere then
        next fun token newline =>
          match token with
          | .word name => !newline && name != "of" && name != "in" && !isReserved name
          | _ => false
      else pure usesNext
    if named then
      if usesNext then advance
      advance
      let name ← bindingName
      let (source, isOf) ← sourceHead
      unless isOf do noteAt start .badLoopHead
      return ([name, source], isOf)
    else
      let first ←
        inScope (fun scope => { freeScope scope with inOperator := false }) (descend .expression)
      if ← atAnyWord ["of", "in"] then
        let isIn ← atWord "in"
        let target ←
          match first.form with
          | .array _ | .object _ => do
            let (pattern, faults) := asPattern .assigned first
            noteAll faults
            pure pattern
          | _ => do
            checkTarget true first
            pure first
        if isIn && (target.form == .arrayPattern || target.form == .objectPattern) then
          noteAt target.start .badLoopHead
        let (source, isOf) ← sourceHead
        return ([target, source], isOf)
      else
        expect .semicolon
        checkDefaults first
        return (first :: (← countingHead), false)

/-- Reads a `for` statement behind its keyword. -/
def forStatement (start : Nat) : Reader Node := do
  let awaitStart ← position
  let isAwait ← acceptWord "await"
  expect .openParen
  let (head, isOf) ← forHead
  expect .closeParen
  let body ← innerStatement loopScope
  if isAwait && !isOf then failAt awaitStart .misplacedForAwait
  node start .statement (head ++ [body])

/-- Reads a `do` statement behind its keyword. -/
def doStatement (start : Nat) : Reader Node := do
  let body ← innerStatement loopScope
  expectWord "while"
  let test ← headExpression
  let _ ← acceptStatementEnd
  node start .statement [body, test]

/-! ## Jumps -/

/-- Reads `break` or `continue` behind the keyword. -/
def jumpStatement (start : Nat) (isBreak : Bool) : Reader Node := do
  let label ← do
    if ← acceptStatementEnd then pure none
    else
      let name ← anyName
      expectStatementEnd
      match name.form with
      | .identifier spelled => pure (some spelled)
      | _ => pure none
  let scope ← scope
  let known := label.all scope.labels.contains
  if isBreak then
    if !known || (label.isNone && !scope.breaks) then noteAt start .misplacedBreak
  else if !known || !scope.continues then noteAt start .misplacedContinue
  node start .statement []

/-- Reads `return` behind the keyword. -/
def returnStatement (start : Nat) : Reader Node := do
  let value ← if ← atStatementEnd then pure [] else pure [← freeExpression]
  expectStatementEnd
  unless (← scope).inFunction do noteAt start .misplacedReturn
  node start .statement value

/-- Reads `throw` behind the keyword. -/
def throwStatement (start : Nat) : Reader Node := do
  if ← onNewLine then fail .lineBreakInThrow
  let value ← freeExpression
  expectStatementEnd
  node start .statement [value]

/-! ## Handlers -/

/-- Reads what handles a failure, if it stands here. -/
def catchClause? : Reader (List Node) := do
  if ← acceptWord "catch" then
    let parameter ← do
      if ← accept .openParen then
        let target ← descend .bindingTarget
        let typed ← typeGiven?
        expect .closeParen
        pure (target :: typed)
      else pure []
    let body ← block
    return parameter ++ [body]
  else return []

/-- Reads what runs in any case, if it stands here. -/
def finallyClause? : Reader (List Node) := do
  if ← acceptWord "finally" then return [← block] else return []

/-- Reads a `try` statement behind its keyword. -/
def tryStatement (start : Nat) : Reader Node := do
  let body ← block
  let handlerStart ← position
  let handler ← catchClause?
  let finisher ← finallyClause?
  if handler.isEmpty && finisher.isEmpty then noteAt handlerStart .statementEndExpected
  node start .statement (body :: handler ++ finisher)

/-! ## Expressions and labels -/

/-- Reads a statement behind its label. -/
def labelledStatement (start : Nat) (label : String) : Reader Node := do
  if (← scope).labels.contains label then noteAt start .repeatedLabel
  let change (scope : Scope) : Scope :=
    { scope with breaks := true, labels := label :: scope.labels, usingAllowed := false }
  if ← atWord "function" then
    let here ← position
    let declared ← inScope change (functionFrom here false false true)
    noteAt here .labelledFunction
    node start .statement [declared]
  else
    let body ← innerStatement change
    node start .statement [body]

/-- Reads the declaration that a word introduced, if it did. -/
def declarationBehind? (start : Nat) (word : String) : Reader (Option Node) := do
  if word == "declare" then ambientDeclaration? start
  else if word == "global" then
    if ← at? .openBrace then
      let body ← itemBlock
      return some (← node start .declaration [body])
    else return none
  else
    match ← wordDeclaration? start word false with
    | some declared => return some declared
    | none =>
      if ["public", "static", "abstract"].contains word && (← atWord "interface") then
        advance
        noteAt start .reservedTypeName
        return some (← interface start)
      else return none

/-- Ends an expression that stands as a statement. -/
def endExpression (start : Nat) (read : Node) : Reader Node := do
  if ← acceptStatementEnd then node start .expressionStatement [read]
  else if (← operator?).isSome then
    note .statementEndExpected
    let result ← inScope freeScope (operationTail 0 read)
    node start .expressionStatement [result]
  else fail .statementEndExpected

/-- Reads a statement that starts with an expression. -/
def expressionStatement : Reader Node := do
  let start ← position
  let read ← freeExpression
  match read.form with
  | .identifier word =>
    if ← accept .colon then labelledStatement start word
    else if word == "interface" && (← onNewLine) then
      let _ ← acceptStatementEnd
      node start .expressionStatement [read]
    else
      match ← declarationBehind? start word with
      | some declared => return declared
      | none => endExpression start read
  | _ =>
    checkDefaults read
    endExpression start read

/-! ## Statements -/

/-- Whether the word that stands here is followed by a name on the same line. -/
def namesFollowing : Reader Bool :=
  next fun token newline =>
    match token with
    | .word _ => !newline
    | _ => false

/-- Whether the word that stands here declares variables. -/
def letDeclares : Reader Bool :=
  next fun token _ =>
    match token with
    | .word name => !(name == "in" || name == "instanceof" || name == "of")
    | .mark .openBracket | .mark .openBrace => true
    | _ => false

/-- Takes a keyword and reads what it starts. -/
def keyworded (read : Nat → Reader Node) : Reader Node := do
  let start ← position
  advance
  read start

/-- Reads a statement or, if they may stand here, a declaration. -/
def statement (declarations : Bool) : Reader Node := do
  let start ← position
  match ← token with
  | .mark .openBrace => block
  | .mark .semicolon => leaf .statement
  | .word "const" =>
    if ← nextIsWord "enum" then
      advance
      keyworded enumeration
    else if declarations then return (← inScope freeScope (variableDeclaration false)).1
    else fail .expressionExpected
  | .word "var" => return (← inScope freeScope (variableDeclaration false)).1
  | .word "let" =>
    if declarations && (← letDeclares) then
      return (← inScope freeScope (variableDeclaration false)).1
    else expressionStatement
  | .word "if" => keyworded ifStatement
  | .word "for" => keyworded forStatement
  | .word "while" =>
    keyworded fun start => do
      let test ← headExpression
      let body ← innerStatement loopScope
      node start .statement [test, body]
  | .word "do" => keyworded doStatement
  | .word "switch" => keyworded switchStatement
  | .word "break" => keyworded fun start => jumpStatement start true
  | .word "continue" => keyworded fun start => jumpStatement start false
  | .word "return" => keyworded returnStatement
  | .word "throw" => keyworded throwStatement
  | .word "try" => keyworded tryStatement
  | .word "debugger" =>
    keyworded fun start => do
      expectStatementEnd
      node start .statement []
  | .word "with" =>
    keyworded fun start => do
      noteAt start .withStatement
      let subject ← headExpression
      let body ← innerStatement id
      node start .statement [subject, body]
  | .word "catch" =>
    note .statementEndExpected
    let handler ← catchClause?
    let finisher ← finallyClause?
    node start .statement (handler ++ finisher)
  | .word "finally" =>
    note .statementEndExpected
    node start .statement (← finallyClause?)
  | .word "function" =>
    unless declarations do note .misplacedDeclaration
    functionFrom start false false true
  | .word "class" =>
    unless declarations do note .misplacedDeclaration
    classFrom start true false false
  | .word "async" =>
    if ← next fun token newline => token == .word "function" && !newline then
      unless declarations do note .misplacedDeclaration
      functionHere false true
    else expressionStatement
  | .word "await" =>
    if ← nextIsWord "using" then
      let declared ← attempt do
        advance
        usingDeclaration? start
      match declared with
      | some read => return read
      | none => expressionStatement
    else expressionStatement
  | .word "using" =>
    match ← (if declarations then usingDeclaration? start else pure none) with
    | some declared => return declared
    | none => expressionStatement
  | .word "interface" =>
    if ← namesFollowing then keyworded interface else expressionStatement
  | .word "type" =>
    if ← namesFollowing then keyworded typeAlias else expressionStatement
  | .word "enum" =>
    if ← namesFollowing then keyworded enumeration else expressionStatement
  | .word "import" =>
    if ← next fun token _ => token == .mark .openParen || token == .mark .dot then
      let read ← freeExpression
      let _ ← acceptStatementEnd
      node start .expressionStatement [read]
    else fail .nestedModuleItem
  | .word "export" => fail .nestedModuleItem
  | _ => expressionStatement

end Source
end KeyedText

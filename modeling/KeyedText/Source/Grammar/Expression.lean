import KeyedText.Source.Grammar.Class
import KeyedText.Source.Grammar.Element

/-!
# Expressions

Expressions are read by precedence: operands with their members and calls, unary operators, binary
operators, conditions, assignments, and sequences.  A parenthesis can open an expression or the
parameters of an arrow function; its content is read so that it can become either.
-/

namespace KeyedText
namespace Source

open Reader

/-! ## Operators -/

/-- The mark that stands here; the marks that start with `>` are read in full. -/
def markHere : Reader (Option Mark) := do
  let cursor ← get
  match cursor.token with
  | .mark .greater => return (firstMark? greaterSpellings cursor.text).map (·.2)
  | .mark mark => return some mark
  | _ => return none

/-- Takes the mark that stands here, read in full. -/
def takeMark : Reader Unit := do
  let cursor ← get
  match cursor.token, firstMark? greaterSpellings cursor.text with
  | .mark .greater, some (spelling, mark) =>
    rescan fun position text =>
      ⟨.mark mark, text.drop spelling.length, position + spelling.length, []⟩
    advance
  | _, _ => advance

/-- How tightly the binary operator that stands here binds. -/
def operator? : Reader (Option (Option Mark × Nat)) := do
  match ← token with
  | .word "in" => return if (← scope).inOperator then some (none, 8) else none
  | .word "instanceof" => return some (none, 8)
  | _ =>
    match ← markHere with
    | some mark => return mark.precedence?.map fun precedence => (some mark, precedence)
    | none => return none

/-- Whether the nullish operator stands next to a logical one without parentheses. -/
def mixesNullish (mark : Option Mark) (operand : Node) : Bool :=
  mark == some .nullish && operand.form == .logical

/-- The form of a binary operation. -/
def operationForm (mark : Option Mark) : Form :=
  if mark == some .logicalOr || mark == some .logicalAnd then .logical else .binary

/-- Reads the operators behind an operand that bind tighter than a bound. -/
def operationTail (bound : Nat) (first : Node) : Reader Node :=
  repeating
    (fun (left : Node) => do
      let asserts := !(← onNewLine) && (← atAnyWord ["as", "satisfies"])
      if asserts then
        if (← atWord "as") && (← nextIsWord "const") then
          advance
          advance
          return .inl (← node left.start .constantAsserted [left])
        else
          advance
          let type ← descend .type
          return .inl (← node left.start .typed [left, type])
      else
        match ← operator? with
        | none => return .inr left
        | some (mark, precedence) =>
          if precedence ≤ bound then return .inr left
          else
            takeMark
            let isPower := mark == some .power
            if isPower && (left.form == .unary || left.form == .await) then
              fail .unaryPowerOperand
            let right ← descend (.operation (if isPower then precedence - 1 else precedence))
            if mixesNullish mark left then noteAt left.start .mixedNullish
            if mixesNullish mark right then noteAt right.start .mixedNullish
            return .inl (.mk (operationForm mark) ⟨left.start, right.stop⟩ [left, right]))
    first

/-- Reads an operand with the operators behind it that bind tighter than a bound. -/
def operation (bound : Nat) : Reader Node := do
  let left ← descend .unary
  if left.form == .arrow then return left
  else operationTail bound left

/-- Reads binary operations.  An operand that is missing in front of an operator is noted, and
the reading goes on. -/
def binary : Reader Node := do
  let start ← position
  let left ←
    recover (descend .unary) fun fault => do
      match ← token, ← operator? with
      | .broken _, _ | _, none => throw fault
      | _, some _ =>
        note .expressionExpected
        node start .missing []
  if left.form == .arrow then return left
  else operationTail 0 left

/-- Reads the value of an assignment, if a sign of assignment stands behind its target. -/
def assignmentTail (start : Nat) (target : Node) : Reader Node := do
  match ← markHere with
  | some mark =>
    if mark.assigns then
      let plain := mark == .assign
      let target ← assignmentTarget plain target
      takeMark
      let value ← descend .assignment
      node start (.assignment plain) [target, value]
    else return target
  | none => return target

/-! ## Arguments -/

/-- Reads an expression, or a spread. -/
def spreadable : Reader Node := do
  let start ← position
  if ← accept .ellipsis then
    let inner ← descend .assignment
    node start .spread [inner]
  else descend .assignment

/-- Reads the arguments of a call. -/
def arguments : Reader (List Node) := do
  expect .openParen
  let read ← inScope containerScope (separated (at? .closeParen) spreadable)
  expect .closeParen
  return read

/-! ## Parentheses -/

/-- A part of what stands between parentheses. -/
structure ParenthesizedItem where
  /-- The expression or pattern. -/
  node : Node
  /-- Whether it can only be a parameter. -/
  isParameter : Bool

/-- Reads the branches of a conditional expression behind its condition. -/
def conditionalTail (test : Node) : Reader Node := do
  expect .question
  let yes ←
    inScope
      (fun scope => { scope with inConditional := true, colonAhead := true, inOperator := true })
      (descend .assignment)
  expect .colon
  let no ←
    inScope (fun scope => { scope with inConditional := true, colonAhead := false })
      (descend .assignment)
  return .mk .conditional ⟨test.start, no.stop⟩ [test, yes, no]

/-- Reads an expression in parentheses that starts with a name, so that a question mark behind
it can make it an optional parameter. -/
def namedItem (start : Nat) : Reader Node := do
  let isSpread ← accept .ellipsis
  let first ← inScope (fun scope => { scope with arrowStart := some start }) binary
  if isSpread then node start .spread [first]
  else if first.form == .arrow then return first
  else assignmentTail start first

/-- Whether the question mark that stands here makes a parameter optional. -/
def atOptionalMark : Reader Bool := do
  if ← at? .question then
    next fun token _ =>
      token == .mark .comma || token == .mark .assign || token == .mark .closeParen
        || token == .mark .colon
  else return false

/-- Reads an item in parentheses. -/
def parenthesizedItem : Reader ParenthesizedItem := do
  let start ← position
  let modified ← parameterModifier?
  let itemStart ← position
  let first ← do
    if (← atName) || (← at? .ellipsis) then namedItem itemStart
    else descend .assignment
  let optional ← atOptionalMark
  if optional then
    advance
    match first.form with
    | .identifier _ => pure ()
    | _ => failAt first.start .badParameters
  let item ← do
    if !optional && (← at? .question) && !isSpread first then conditionalTail first
    else pure first
  if optional || (← at? .colon) then
    let pattern ←
      match item with
      | .mk .spread span [inner] => do
        let inner ← parameterOf inner
        pure (Node.mk .restPattern span [inner])
      | _ => parameterOf item
    let typed ← typeGiven?
    let value ← do
      if ← accept .assign then pure [← descend .assignment] else pure []
    if modified then noteAt start .parameterProperty
    let form :=
      if pattern.form == .restPattern then Form.restPattern
      else if value.isEmpty then .binding
      else .defaultPattern
    let parts := if form == .restPattern then pattern.parts else [pattern]
    return ⟨← node itemStart form (parts ++ typed ++ value), true⟩
  else
    if modified then noteAt start .parameterProperty
    return ⟨item, false⟩

/-- Reads the items between parentheses, with the position of a comma behind the last one. -/
def parenthesizedItems : Reader (List ParenthesizedItem × Option Nat) := do
  expect .openParen
  let read ←
    repeating
      (fun (state : List ParenthesizedItem × Option Nat) => do
        let (read, trailing) := state
        if (← at? .closeParen) || (← atFinish) then return .inr (read.reverse, trailing)
        else
          let item ← parenthesizedItem
          if ← at? .closeParen then return .inl (item :: read, none)
          else
            let comma ← position
            expect .comma
            return .inl (item :: read, if ← at? .closeParen then some comma else none))
      ([], none)
  expect .closeParen
  return read

/-- Takes the items between parentheses as the parameters of an arrow function. -/
def arrowParameters (items : List ParenthesizedItem) (trailing : Option Nat) :
    Reader (List Node) := do
  let isRest (pattern : Node) : Bool := pattern.form == .restPattern || isSpread pattern
  noteAll (restFaults trailing isRest (items.map (·.node)))
  let read ← items.mapM fun item => do
    if item.isParameter then pure item.node
    else
      match item.node with
      | .mk .spread span [inner] => do
        let inner ← parameterOf inner
        noteAll (restDefaultFaults span.start inner)
        pure (Node.mk .restPattern span [inner])
      | _ => parameterOf item.node
  for start in restrictedNamesOfAll read do noteAt start .restrictedBinding
  return read

/-- Reads an arrow function behind its parameters and type. -/
def arrowFrom (start : Nat) (isAsync : Bool) (head : List Node) (isSimple : Bool) :
    Reader Node := do
  expect .arrow
  let body ← arrowBody isAsync isSimple
  node start .arrow (head ++ [body])

/-- The positions of the default values that make an object only a pattern. -/
def patternOnlyDefaults (item : Node) : List Nat :=
  match item with
  | .mk (.object _) _ parts =>
    (parts.filter fun part => match part.form with | .shorthandDefault _ => true | _ => false).map
      Node.start
  | _ => []

/-- Reads the type that an arrow function returns, if an arrow follows it. -/
def arrowType? : Reader (Option Node) := do
  if !(← scope).colonAhead && (← at? .colon) then
    attempt do
      advance
      let returned ← returnedType
      require .arrow
      return some returned
  else return none

/-- Reads an arrow function with a type inside a conditional expression, if it leaves the colon
that the condition needs. -/
def conditionalArrow? (start : Nat) (isAsync : Bool) (items : List ParenthesizedItem)
    (trailing : Option Nat) : Reader (Option Node) := do
  let scope ← scope
  if scope.inConditional && (← at? .colon) then
    attempt do
      advance
      let returned ← returnedType
      require .arrow
      let read ← arrowParameters items trailing
      let arrow ← arrowFrom start isAsync (read ++ [returned]) (read.all isSimpleParameter)
      if scope.colonAhead then require .colon
      return some arrow
  else return none

/-- Takes the items between parentheses as an expression. -/
def parenthesizedExpression (start : Nat) (asyncStart : Option Nat)
    (items : List ParenthesizedItem) : Reader Node := do
  for item in items do
    for default in patternOnlyDefaults item.node do noteAt default .defaultOutsidePattern
  let nodes := items.map (·.node)
  match asyncStart with
  | some asyncStart =>
    node asyncStart .call
      (.mk (.identifier "async") ⟨asyncStart, asyncStart + 5⟩ [] :: nodes)
  | none =>
    match nodes.find? isSpread, nodes with
    | some spread, _ => failAt spread.start .spreadInParentheses
    | none, [] => failAt start .emptyParentheses
    | none, [inner] => node start .parentheses [inner]
    | none, first :: others =>
      let last := (others.getLast?).getD first
      node start .parentheses [.mk .sequence ⟨first.start, last.stop⟩ nodes]

/-- Reads an expression in parentheses, an arrow function, or a call of `async`. -/
def parenthesized (mayBeArrow : Bool) (asyncStart : Option Nat) : Reader Node := do
  let start := asyncStart.getD (← position)
  let isAsync := asyncStart.isSome
  let (items, trailing) ← inScope containerScope parenthesizedItems
  match ← conditionalArrow? start isAsync items trailing with
  | some arrow => return arrow
  | none =>
    let returned ← arrowType?
    if items.any (·.isParameter) || returned.isSome || (← at? .arrow) then
      if ← onNewLine then failAt start .misplacedArrow
      unless mayBeArrow do failAt start .misplacedArrow
      require .arrow
      let read ← arrowParameters items trailing
      let arrow ←
        arrowFrom start isAsync (read ++ returned.toList) (read.all isSimpleParameter)
      let endsInBlock := arrow.parts.getLast?.any fun body => body.form == .block
      if endsInBlock && (← operator?).isSome then
        note .statementEndExpected
        let result ← operationTail 0 arrow
        unless ← atStatementEnd do note .statementEndExpected
        return .mk .binary result.span [result]
      else return arrow
    else parenthesizedExpression start asyncStart items

/-! ## Literals -/

/-- Reads a regular expression, which starts with the current mark. -/
def regex : Reader Node := do
  let cursor ← get
  match scanRegex false false (cursor.start + 1) cursor.text.tail with
  | none => throw ⟨cursor.start, .unterminatedRegex⟩
  | some (rest, stop) =>
    let flags := rest.takeWhile Character.continuesIdentifier
    set { cursor with rest := rest.drop flags.length, stop := stop + flags.length }
    unless regexFlagsFit flags do noteAt cursor.start .badRegexFlags
    advance
    node cursor.start .literal []

/-- Reads an array. -/
def array : Reader Node := do
  let start ← position
  expect .openBracket
  let (elements, trailing) ←
    inScope containerScope
      (repeating
        (fun (state : List Node × Option Nat) => do
          let (read, trailing) := state
          if ← at? .closeBracket then return .inr (read.reverse, trailing)
          else if ← at? .comma then
            let hole := Node.mk .hole ⟨← position, ← position⟩ []
            advance
            return .inl (hole :: read, none)
          else
            let element ← spreadable
            if ← at? .closeBracket then return .inl (element :: read, none)
            else
              let comma ← position
              expect .comma
              return .inl (element :: read, if ← at? .closeBracket then some comma else none))
        ([], none))
  expect .closeBracket
  node start (.array trailing) elements

/-- Whether a property can go on here behind its key. -/
def atPropertyRest : Reader Bool := do
  match ← token with
  | .word _ | .string _ | .number _ => return true
  | .mark mark =>
    return [Mark.openParen, .openBracket, .colon, .comma, .question, .assign, .star, .closeBrace,
      .less].contains mark
  | _ => return false

/-- Reads a getter, a setter or an asynchronous method of an object behind its first word. -/
def objectAccessor (start : Nat) (word : String) : Reader Node := do
  let isAsync := word == "async"
  let isGenerator ← if isAsync then accept .star else pure false
  let kind :=
    if word == "get" then MethodKind.getter
    else if word == "set" then .setter
    else .plain
  let (key, _) ← propertyKey
  let (parts, _) ← methodRest kind isAsync isGenerator key.start
  node start .method (key :: parts)

/-- Reads a property of an object. -/
def objectProperty : Reader Node := do
  let start ← position
  if ← accept .ellipsis then
    let inner ← descend .assignment
    node start .spread [inner]
  else if ← accept .star then
    let (key, _) ← propertyKey
    let (parts, _) ← methodRest .plain false true key.start
    node start .method (key :: parts)
  else
    let modified ← parameterModifier?
    let keyStart ← position
    let isWord := (← word?).isSome
    let (key, name) ← propertyKey
    if !(← atPropertyRest) then
      note .statementEndExpected
      node start (.property none) [key, .mk .missing ⟨start, start⟩ []]
    else if ← accept .colon then
      let value ← descend .assignment
      node start (.property name) [key, value]
    else if ← atMethod then
      let (parts, _) ← methodRest .plain false false key.start
      node start .method (key :: parts)
    else
      match isWord, name with
      | true, some word =>
        if ← at? .question then
          note .badParameters
          advance
        if ← atAny [.assign, .comma, .closeBrace] then
          if isReservedInModule word then noteAt keyStart .reservedShorthand
          if ← accept .assign then
            let value ← descend .assignment
            node start (.shorthandDefault word) [key, value]
          else node start (.shorthand word) [key]
        else if word == "get" || word == "set" || word == "async" then
          if modified then noteAt start .badModifier
          objectAccessor start word
        else unexpected "... , *,  (, [, :, , ?, =, an identifier"
      | _, _ => unexpected "identifier"

/-- Reads an object. -/
def object : Reader Node := do
  let start ← position
  expect .openBrace
  let (properties, trailing) ←
    inScope containerScope
      (repeating
        (fun (state : List Node × Option Nat) => do
          let (read, trailing) := state
          if ← at? .closeBrace then return .inr (read.reverse, trailing)
          else
            let property ← objectProperty
            if ← at? .closeBrace then return .inl (property :: read, none)
            else
              let comma ← position
              expect .comma
              return .inl (property :: read, if ← at? .closeBrace then some comma else none))
        ([], none))
  expect .closeBrace
  node start (.object trailing) properties

/-- Reads a template. -/
def template : Reader Node := do
  let start ← position
  let (chunks, inners) ← inScope containerScope (templateParts false (descend .expression))
  node start (.template chunks) inners

/-- Reads a template behind the function that reads it. -/
def taggedTemplate (tag : Node) : Reader Node := do
  let (_, inners) ← inScope containerScope (templateParts true (descend .expression))
  node tag.start .taggedTemplate (tag :: inners)

/-! ## Primary expressions -/

/-- Reads an asynchronous arrow function behind its first word, from its type parameters on. -/
def genericAsyncArrow (start : Nat) : Reader Node := do
  let generics ← typeParameters false
  expect .openParen
  let read ← inScope (parameterScope true false) parameters
  expect .closeParen
  let returned ← returnedType?
  arrowFrom start true (generics ++ read ++ returned) (read.all isSimpleParameter)

/-- Reads a name, or an arrow function whose only parameter is that name. -/
def nameOrArrow (mayBeArrow : Bool) : Reader Node := do
  let start ← position
  let name ← variableName
  let spelled := match name.form with | .identifier spelled => spelled | _ => ""
  let sameLine := !(← onNewLine)
  if mayBeArrow && sameLine && spelled == "async" && (← atName) then
    if (← atWord "of") && !(← nextIs .arrow) then return name
    else
      let isAs ← atWord "as"
      let parameter ← bindingName
      if isAs && !(← at? .arrow) then
        let type ← descend .type
        node start .typed [name, type]
      else arrowFrom start true [parameter] true
  else if mayBeArrow && sameLine && (← at? .arrow) then
    if isRestricted spelled then noteAt start .restrictedBinding
    arrowFrom start false [name] true
  else return name

/-- Reads what starts with `async`. -/
def asyncOperand (mayBeArrow : Bool) : Reader Node := do
  let start ← position
  if ← next fun token newline => token == .word "function" && !newline then
    functionHere true false
  else
    let generic ← do
      if mayBeArrow && (← nextIs .less) then
        attempt do
          advance
          return some (← genericAsyncArrow start)
      else pure none
    match generic with
    | some arrow => return arrow
    | none =>
      let opens ← next fun token newline => token == .mark .openParen && !newline
      if mayBeArrow && opens then
        advance
        parenthesized mayBeArrow (some start)
      else nameOrArrow mayBeArrow

/-- Reads an expression that no operator starts or ends. -/
def primary : Reader Node := do
  let start ← position
  let mayBeArrow := (← scope).arrowStart == some start
  match ← token with
  | .word "this" => leaf .receiver
  | .word "async" => asyncOperand mayBeArrow
  | .word "function" => functionFrom start false true false
  | .word "class" => classFrom start false false true
  | .word name =>
    if name == "null" || name == "true" || name == "false" then leaf .literal
    else if isReserved name then fail .expressionExpected
    else nameOrArrow mayBeArrow
  | .number _ => leaf .literal
  | .string value => leaf (.string value)
  | .mark .openBracket => array
  | .mark .openBrace => object
  | .mark .openParen => parenthesized mayBeArrow none
  | .mark .backquote => template
  | .mark .slash | .mark .divideAssign => regex
  | .mark .hash => privateName
  | _ => fail .expressionExpected

/-! ## Members and calls -/

/-- Whether an expression is a chain that stops at a missing value. -/
def isChain : Node → Bool
  | .mk .chain _ _ => true
  | .mk .presentAsserted _ [inner] => isChain inner
  | _ => false

/-- What members and calls are read behind. -/
inductive Owner where
  /-- An expression. -/
  | expression
  /-- The parent class. -/
  | parent
  /-- The module loader. -/
  | loader
deriving DecidableEq

/-- Whether an expression can start here. -/
def atExpressionStart : Reader Bool := do
  match ← token with
  | .word name =>
    return !isReserved name
      || ["this", "null", "true", "false", "function", "class", "new", "super", "typeof", "void",
        "delete", "import"].contains name
  | .number _ | .string _ => return true
  | .mark mark =>
    return [Mark.openParen, .openBracket, .openBrace, .backquote, .plus, .minus, .tilde, .bang,
      .increment, .decrement, .less, .slash, .divideAssign, .hash, .atSign].contains mark
  | _ => return false

/-- Whether type arguments can end here, because what follows cannot be an operand. -/
def endsTypeArguments : Reader Bool := do
  if ← atAny [.less, .greater, .plus, .minus] then return false
  else
    let assertsOrOperates := (← operator?).isSome || (← atAnyWord ["as", "satisfies"])
    return (← onNewLine) || assertsOrOperates || !(← atExpressionStart)

/-- Reads type arguments behind an expression, with the call or template that they belong to. -/
def instantiated? (calls : Bool) (owner : Node) : Reader (Option Node) :=
  attempt do
    let generics ← typeArguments
    if ← at? .openParen then
      if calls then
        let read ← arguments
        let form := if isChain owner then Form.chain else .call
        return some (← node owner.start form (owner :: generics ++ read))
      else return none
    else if ← at? .backquote then return some (← taggedTemplate owner)
    else if ← endsTypeArguments then
      return some (← node owner.start .typed (owner :: generics))
    else return none

/-- Reads the name of a member behind its dot. -/
def memberName (owner : Node) (kind : Owner) (optional : Bool) : Reader Node := do
  let isPrivate ← at? .hash
  let name ← if isPrivate then privateName else anyName
  let form :=
    if optional || isChain owner then Form.chain
    else if kind == .parent then .parentMember
    else
      match name.form with
      | .identifier spelled => .member spelled
      | _ => .otherMember
  let parts := if isPrivate then [owner, name] else [owner]
  node owner.start form parts

/-- Reads the member in brackets. -/
def indexedMember (owner : Node) (kind : Owner) (optional : Bool) : Reader Node := do
  expect .openBracket
  let index ← inScope containerScope (descend .expression)
  expect .closeBracket
  let form :=
    if optional || isChain owner then Form.chain
    else if kind == .parent then .parentMember
    else .otherMember
  node owner.start form [owner, index]

/-- Reads what follows the mark of an optional member or call. -/
def optionalPart (owner : Node) (kind : Owner) : Reader Node := do
  advance
  if ← at? .openBracket then indexedMember owner kind true
  else if ← at? .openParen then
    let read ← arguments
    node owner.start .chain (owner :: read)
  else if ← atTypeList then
    let generics ← typeArguments
    let read ← arguments
    node owner.start .chain (owner :: generics ++ read)
  else if ← at? .backquote then fail .badOptionalChain
  else memberName owner kind true

/-- Reads the members and calls behind an expression. -/
def subscripts (calls : Bool) (kind : Owner) (first : Node) : Reader Node :=
  repeating
    (fun (state : Node × Owner) => do
      let (owner, kind) := state
      let generic ← do
        if kind == .expression && (← atTypeList) then instantiated? calls owner else pure none
      match generic with
      | some read => return .inl (read, .expression)
      | none =>
        match ← token with
        | .mark .bang =>
          if ← onNewLine then return .inr owner
          else if kind != .expression then fail .badKeywordUse
          else
            advance
            return .inl (← node owner.start .presentAsserted [owner], .expression)
        | .mark .questionDot =>
          if kind != .expression then fail .badKeywordUse
          else return .inl (← optionalPart owner kind, .expression)
        | .mark .openBracket =>
          if kind == .loader then fail .badKeywordUse
          else return .inl (← indexedMember owner kind false, .expression)
        | .mark .dot =>
          advance
          return .inl (← memberName owner kind false, .expression)
        | .mark .openParen =>
          if calls || kind == .loader then
            let read ← arguments
            let form := if isChain owner then Form.chain else .call
            return .inl (← node owner.start form (owner :: read), .expression)
          else if kind == .expression then return .inr owner
          else fail .badKeywordUse
        | .mark .backquote =>
          if kind != .expression then fail .badKeywordUse
          else if isChain owner then fail .badOptionalChain
          else return .inl (← taggedTemplate owner, .expression)
        | _ => if kind == .expression then return .inr owner else fail .badKeywordUse)
    (first, kind)

/-- Reads `import` as the start of an expression. -/
def importOperand (calls : Bool) : Reader Node := do
  let start ← position
  expectWord "import"
  if ← accept .dot then
    if ← acceptWord "meta" then
      subscripts calls .expression (← node start .metaProperty [])
    else if ← atAnyWord ["defer", "source"] then
      advance
      subscripts calls .loader (← node start .literal [])
    else unexpected "meta"
  else subscripts calls .loader (← node start .literal [])

/-- Whether a construction cannot be made of a callee, because it belongs to a chain. -/
def endsInChain : Node → Bool
  | .mk .chain _ _ => true
  | .mk (.member _) _ (owner :: _) => owner.form == .chain
  | _ => false

/-- Reads what `new` constructs, behind the keyword. -/
def constructed (start : Nat) : Reader Node := do
  let callee ← descend .construction
  if callee.form == .arrow then return callee
  else
    if endsInChain callee then failAt callee.start .badOptionalChain
    let generics ← do
      if ← atTypeList then
        pure
          ((← attempt do
            let generics ← typeArguments
            require .openParen
            return some generics).getD [])
      else pure []
    if ← at? .openParen then
      let read ← arguments
      let made ← node start (.construction true) (callee :: generics ++ read)
      subscripts false .expression made
    else node start (.construction false) [callee]

/-- Reads an operand of `new`, or a chain of members. -/
def construction : Reader Node := do
  let start ← position
  if ← acceptWord "new" then
    if ← accept .dot then
      if ← acceptWord "target" then
        let target ← node start .metaProperty []
        unless (← scope).hasNewTarget do noteAt start .misplacedNewTarget
        subscripts false .expression target
      else unexpected "target"
    else constructed start
  else if ← acceptWord "super" then subscripts false .parent (← node start .receiver [])
  else if ← atWord "import" then importOperand false
  else
    let first ← primary
    if first.form == .arrow then return first
    else subscripts false .expression first

/-- Reads an operand with its calls and members. -/
def operand : Reader Node := do
  let start ← position
  if ← at? .less then
    let read ← descend .element
    advance
    return read
  else if ← acceptWord "super" then subscripts true .parent (← node start .receiver [])
  else if ← atWord "import" then importOperand true
  else
    let first ← construction
    match first.form with
    | .arrow | .construction false => return first
    | _ => subscripts true .expression first

/-! ## Unary operators -/

/-- Reads `await` and its operand. -/
def awaited : Reader Node := do
  let start ← position
  let scope ← scope
  expectWord "await"
  if ← at? .star then fail .misplacedAwait
  else if !scope.inAsync && ((← atAny [.closeParen, .closeBracket]) || (← atStatementEnd)) then
    noteAt start .misplacedAwait
    node start (.identifier "await") []
  else
    if scope.inFunction && !scope.inAsync then noteAt start .misplacedAwait
    if scope.inParameters && !scope.inFunction then noteAt start .misplacedAwait
    let inner ← descend .unary
    node start .await [inner]

/-- The words that are unary operators. -/
def unaryWords : List String := ["delete", "typeof", "void"]

/-- Reads an operand with its unary operators. -/
def unary : Reader Node := do
  let start ← position
  if ← atAny [.increment, .decrement] then
    advance
    let inner ← descend .unary
    checkTarget false inner
    node start .update [inner]
  else if (← atAnyWord unaryWords) || (← atAny [.plus, .minus, .tilde, .bang]) then
    advance
    let inner ←
      recover (descend .unary) fun fault => do
        noteAt fault.position fault.cause
        node start .missing []
    node start .unary [inner]
  else if ← atWord "await" then awaited
  else
    let inner ← operand
    if inner.form == .arrow then return inner
    else if !(← onNewLine) && (← atAny [.increment, .decrement]) then
      checkTarget false inner
      advance
      node start .update [inner]
    else return inner

/-! ## Assignments and sequences -/

/-- Reads a conditional expression. -/
def conditional : Reader Node := do
  let test ← binary
  if test.form == .arrow then return test
  else if ← at? .question then conditionalTail test
  else return test

/-- Reads `yield` and its operand. -/
def yielded : Reader Node := do
  let start ← position
  let scope ← scope
  expectWord "yield"
  if scope.inParameters && !scope.inFunction then failAt start .misplacedYield
  let hasOperand ← do
    if ← atStatementEnd then pure false
    else pure ((← atAny [.star]) || (← atExpressionStart) || (← atWord "await"))
  if hasOperand then
    let _ ← accept .star
    let inner ← descend .assignment
    node start .yield [inner]
  else node start .yield []

/-- Whether type parameters of an arrow function start here rather than an element: a comma, a
default or a bound follows the first of them. -/
def atGenericArrow : Reader Bool :=
  ahead do
    expect .less
    if (← atWord "const") && (← next fun token _ => token matches .word _) then advance
    let _ ← anyName
    if ← atAny [.comma, .assign] then return true
    else if ← acceptWord "extends" then return !(← atAny [.assign, .greater, .slash])
    else return false

/-- Reads an arrow function with type parameters. -/
def genericArrow? : Reader (Option Node) := do
  if (← at? .less) && (← atGenericArrow) then
    attempt do
      let start ← position
      let generics ← typeParameters false
      let arrow ← descend .assignment
      if arrow.form == .arrow then
        return some (.mk .arrow ⟨start, arrow.stop⟩ (generics ++ arrow.parts))
      else fail .misplacedArrow
  else return none

/-- Reads an expression without a comma. -/
def assignment : Reader Node := do
  match ← genericArrow? with
  | some arrow => return arrow
  | none =>
    if (← scope).inGenerator && (← atWord "yield") then yielded
    else
      let start ← position
      let mayBeArrow := (← atName) || (← at? .openParen)
      let read ←
        inScope
          (fun scope => { scope with arrowStart := if mayBeArrow then some start else none })
          conditional
      match read.form with
      | .arrow | .conditional | .binary | .logical | .unary | .update => return read
      | _ => assignmentTail start read

/-- Reads expressions separated by commas. -/
def expression : Reader Node := do
  let first ← descend .assignment
  if ← at? .comma then
    let others ←
      repeating
        (fun (read : List Node) => do
          if ← accept .comma then return .inl ((← descend .assignment) :: read)
          else return .inr read.reverse)
        []
    node first.start .sequence (first :: others)
  else return first

end Source
end KeyedText

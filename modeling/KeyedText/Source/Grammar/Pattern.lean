import KeyedText.Source.Reader

/-!
# Names, keys and patterns

A pattern is read in two ways: directly, where a declaration binds names, or as an expression
that turns out to stand in front of an assignment or an arrow and is then taken as a pattern.
-/

namespace KeyedText
namespace Source

open Reader

/-! ## Names -/

/-- Reads a word of any kind. -/
def anyName : Reader Node := do
  match ← word? with
  | some name => leaf (.identifier name)
  | none => fail .nameExpected

/-- Reads the name of a variable, noting the names that strict code reserves. -/
def variableName : Reader Node := do
  match ← word? with
  | none => fail .nameExpected
  | some name =>
    let scope ← scope
    if strictWords.contains name || name == "enum" then note .reservedName
    if name == "await" && !scope.ambient then fail .nameExpected
    else if isReserved name && name != "this" then fail .nameExpected
    else
      if name == "arguments" && scope.inClassField then note .reservedName
      leaf (.identifier name)

/-- Reads a name that is bound, noting the names that strict code refuses to bind. -/
def bindingName : Reader Node := do
  let start ← position
  let name ← variableName
  match name.form with
  | .identifier spelled =>
    if isRestricted spelled then noteAt start .restrictedBinding
    return name
  | _ => return name

/-- Reads a name that is bound, where `let` is refused. -/
def declaredName : Reader Node := do
  if ← atWord "let" then unexpected "a name other than let"
  else bindingName

/-! ## Keys -/

/-- Reads the key of a property or member: a name, a string, a number, or an expression in
brackets; with the name that it spells. -/
def propertyKey : Reader (Node × Option String) := do
  let start ← position
  match ← token with
  | .word name => return (← leaf (.identifier name), some name)
  | .string value => return (← leaf (.string value), value)
  | .number _ => return (← leaf .literal, none)
  | .mark .openBracket =>
    advance
    let inner ← position
    let first ← inScope (fun scope => { scope with inOperator := true }) (descend .assignment)
    let more ←
      repeating
        (fun (read : List Node) => do
          if ← accept .comma then
            noteAt inner .badType
            return .inl ((← descend .assignment) :: read)
          else return .inr read.reverse)
        []
    expect .closeBracket
    return (← node start .binding (first :: more), none)
  | _ => unexpected "identifier, string literal, numeric literal or [ for the computed key"

/-! ## Modifiers -/

/-- Whether the token behind a modifier shows that the modifier is one. -/
def followsModifier (token : Token) (newline : Bool) : Bool :=
  match token with
  | .mark mark =>
    !newline && [Mark.openBracket, .openBrace, .star, .ellipsis, .hash].contains mark
  | .word _ | .string _ | .number _ => !newline
  | _ => false

/-- Takes one of several modifiers if one stands here. -/
def modifier? (words : List String) : Reader (Option String) := do
  match ← word? with
  | some name =>
    if words.contains name && (← next followsModifier) then
      advance
      return some name
    else return none
  | none => return none

/-- Takes a modifier of a parameter, if one stands here. -/
def parameterModifier? : Reader Bool := do
  let here ← atAnyWord ["public", "protected", "private", "readonly"]
  let follows ← next fun token _ =>
    match token with
    | .word _ => true
    | .mark mark => mark == .openBrace || mark == .openBracket
    | _ => false
  if here && follows then
    let _ ← modifier? ["public", "protected", "private", "readonly"]
    return true
  else return false

/-! ## Patterns that declarations bind -/

/-- Reads an initial value, if an assignment sign stands here. -/
def initialValue? : Reader (List Node) := do
  if ← accept .assign then
    return [← inScope (fun scope => { scope with inOperator := true }) (descend .assignment)]
  else return []

/-- Reads a pattern with its default value, if it has one. -/
def bindingElement : Reader Node := do
  let start ← position
  let target ← descend .bindingTarget
  if ← at? .assign then
    let value ← initialValue?
    if (← scope).ambient then noteAt start .badParameters
    node start .defaultPattern (target :: value)
  else return target

/-- Reads an array pattern. -/
def arrayBinding : Reader Node := do
  let start ← position
  expect .openBracket
  let elements ←
    repeating
      (fun (state : List Node × Bool) => do
        let (read, rested) := state
        if (← at? .closeBracket) || (← atFinish) then return .inr read.reverse
        else if ← at? .comma then
          let hole ← node (← position) .hole []
          advance
          return .inl (hole :: read, rested)
        else
          let here ← position
          if rested then note .restNotLast
          let isRest ← accept .ellipsis
          let element ←
            if isRest then
              let target ← descend .bindingTarget
              node here .restPattern [target]
            else bindingElement
          unless ← at? .closeBracket do
            expect .comma
            if isRest && (← at? .closeBracket) then note .restNotLast
          return .inl (element :: read, isRest))
      ([], false)
  expect .closeBracket
  if (← scope).ambient then
    let _ ← accept .question
  node start .arrayPattern elements

/-- Reads a property of an object pattern. -/
def propertyBinding : Reader Node := do
  let start ← position
  if ← accept .ellipsis then
    let target ← descend .bindingTarget
    node start .restPattern [target]
  else
    let (key, _) ← propertyKey
    if ← accept .colon then
      let value ← bindingElement
      node start .propertyPattern [key, value]
    else
      match key.form with
      | .identifier name =>
        if ← at? .assign then
          let value ← initialValue?
          node start .shorthandPattern (key :: value)
        else
          if isReservedInModule name then noteAt start .reservedShorthand
          node start .shorthandPattern [key]
      | _ => unexpected "an identifier"

/-- Whether a pattern takes the rest. -/
def isRestPattern (pattern : Node) : Bool :=
  pattern.form == .restPattern

/-- Reads an object pattern. -/
def objectBinding : Reader Node := do
  let start ← position
  expect .openBrace
  let (properties, trailing) ←
    repeating
      (fun (state : List Node × Option Nat) => do
        let (read, trailing) := state
        if ← accept .closeBrace then return .inr (read.reverse, trailing)
        else
          let property ← propertyBinding
          let comma ← position
          if ← at? .closeBrace then return .inl (property :: read, none)
          else
            expect .comma
            return .inl (property :: read, if ← at? .closeBrace then some comma else none))
      ([], none)
  for property in properties.dropLast do
    if isRestPattern property then noteAt property.start .restNotLast
  match properties.getLast? with
  | some (.mk .restPattern span parts) =>
    match parts with
    | [.mk (.identifier _) _ _] =>
      match trailing with
      | some comma => noteAt comma .restNotLast
      | none => pure ()
    | _ => failAt span.start .badPattern
  | _ => pure ()
  if (← scope).ambient then
    let _ ← accept .question
  node start .objectPattern properties

/-- Reads a pattern or a name that is bound. -/
def bindingTarget : Reader Node := do
  match ← token with
  | .mark .openBracket => arrayBinding
  | .mark .openBrace => objectBinding
  | .word _ => bindingName
  | _ => unexpected "yield, an identifier, [ or \x7b"

/-! ## Expressions taken as patterns -/

/-- Whether an expression can be assigned to without being a pattern. -/
def isSimpleTarget : Node → Bool
  | .mk (.identifier name) _ _ => !isRestricted name
  | .mk .parentheses _ [inner] => isSimpleTarget inner
  | .mk (.member _) _ (owner :: _) => isOwner owner
  | .mk .otherMember _ (owner :: _) => isOwner owner
  | .mk .parentMember _ _ => true
  | .mk .typed _ (inner :: _) => isSimpleTarget inner
  | .mk .presentAsserted _ [inner] => isSimpleTarget inner
  | _ => false
where
  /-- Whether a member of an expression can be assigned to. -/
  isOwner : Node → Bool
    | .mk .chain _ _ => false
    | .mk (.member _) _ (owner :: _) => isOwner owner
    | .mk .otherMember _ (owner :: _) => isOwner owner
    | _ => true

/-- Whether an assignment to an expression is refused while reading, rather than later. -/
def isRefusedTarget (refuseCalls : Bool) : Node → Bool
  | .mk .literal _ _ => false
  | .mk (.string _) _ _ => false
  | .mk .binary _ _ => false
  | .mk .logical _ _ => false
  | .mk .call _ _ => refuseCalls
  | .mk .parentheses _ [inner] => isRefusedTarget refuseCalls inner
  | _ => true

/-- How an expression is taken as a pattern. -/
inductive PatternUse where
  /-- It binds parameters. -/
  | binding
  /-- It is assigned to. -/
  | assigned
deriving DecidableEq

/-- The faults of the rest elements among the parts of an array or object. -/
def restFaults (trailing : Option Nat) (isRest : Node → Bool) (elements : List Node) :
    List Fault :=
  let early := (elements.dropLast.filter isRest).map fun element =>
    (⟨element.start, .restNotLast⟩ : Fault)
  let late :=
    match elements.getLast?, trailing with
    | some last, some comma => if isRest last then [⟨comma, .restNotLast⟩] else []
    | _, _ => []
  early ++ late

/-- Whether a node is a spread. -/
def isSpread (element : Node) : Bool :=
  element.form == .spread

/-- Whether an expression could be assigned to, as a fault if it could not. -/
def targetFaults (node : Node) : List Fault :=
  if isSimpleTarget node then [] else [⟨node.start, .badAssignmentTarget⟩]

/-- The fault of a default value for the rest. -/
def restDefaultFaults (start : Nat) (pattern : Node) : List Fault :=
  if pattern.form == .defaultPattern then [⟨start, .restWithDefault⟩] else []

mutual

/-- Takes an expression, or a part of an array or object, as a pattern, with the faults that this
shows. -/
def asPattern (use : PatternUse) : Node → Node × List Fault
  | .mk (.array trailing) span parts =>
    let (elements, faults) := asPatterns use parts
    (.mk .arrayPattern span elements, restFaults trailing isSpread parts ++ faults)
  | .mk (.object trailing) span parts =>
    let (properties, faults) := asPatterns use parts
    (.mk .objectPattern span properties, restFaults trailing isSpread parts ++ faults)
  | .mk (.assignment true) span [target, value] =>
    let (target, faults) := asPattern use target
    (.mk .defaultPattern span [target, value], faults)
  | .mk (.property _) span [key, value] =>
    let (value, faults) := asPattern use value
    (.mk .propertyPattern span [key, value], faults)
  | .mk .spread span [inner] =>
    let (inner, faults) := asPattern use inner
    (.mk .restPattern span [inner], restDefaultFaults span.start inner ++ faults)
  | .mk (.shorthandDefault _) span parts => (.mk .shorthandPattern span parts, [])
  | .mk (.shorthand name) span parts =>
    let faults :=
      if use == .assigned && isRestricted name then [⟨span.start, .badAssignmentTarget⟩] else []
    (.mk .shorthandPattern span parts, faults)
  | .mk form span parts =>
    match form, use with
    | .hole, _ | .binding, _ | .arrayPattern, _ | .objectPattern, _ | .defaultPattern, _
    | .restPattern, _ | .identifier _, .binding => (.mk form span parts, [])
    | .method, _ | _, .binding => (.mk .missing span parts, [⟨span.start, .badPattern⟩])
    | _, .assigned => (.mk form span parts, targetFaults (.mk form span parts))
termination_by structural node => node

/-- Takes the parts of an array or object as patterns. -/
def asPatterns (use : PatternUse) : List Node → List Node × List Fault
  | [] => ([], [])
  | node :: rest =>
    let (here, faults) := asPattern use node
    let (others, otherFaults) := asPatterns use rest
    (here :: others, faults ++ otherFaults)
termination_by structural nodes => nodes

end

mutual

/-- The positions of the names in a pattern that strict code refuses to bind. -/
def restrictedNames : Node → List Nat
  | .mk (.identifier name) span _ => if isRestricted name then [span.start] else []
  | .mk .arrayPattern _ parts => restrictedNamesOfAll parts
  | .mk .objectPattern _ parts => restrictedNamesOfAll parts
  | .mk .restPattern _ [inner] => restrictedNames inner
  | .mk .propertyPattern _ [_, value] => restrictedNames value
  | .mk .shorthandPattern _ (name :: _) => restrictedNames name
  | .mk .defaultPattern _ (target :: _) => restrictedNames target
  | .mk .binding _ (target :: _) => restrictedNames target
  | _ => []
termination_by structural node => node

/-- The positions of the names in several patterns that strict code refuses to bind. -/
def restrictedNamesOfAll : List Node → List Nat
  | [] => []
  | node :: rest => restrictedNames node ++ restrictedNamesOfAll rest
termination_by structural nodes => nodes

end

/-- Notes the given faults. -/
def noteAll (faults : List Fault) : Reader Unit :=
  faults.forM fun fault => noteAt fault.position fault.cause

/-- Takes an expression as a pattern that binds parameters. -/
def parameterOf (expression : Node) : Reader Node := do
  let (pattern, faults) := asPattern .binding expression
  noteAll faults
  return pattern

/-- Notes the faults of an operand that is assigned to without being a pattern. -/
def checkTarget (refuseCalls : Bool) (target : Node) : Reader Unit := do
  match target with
  | .mk (.identifier name) span _ =>
    if isRestricted name then noteAt span.start .restrictedBinding
  | _ =>
    if !isSimpleTarget target && isRefusedTarget refuseCalls target then
      noteAt target.start .badAssignmentTarget

/-- Whether an expression may stand in front of an assignment at all. -/
def isAssignable : Node → Bool
  | .mk form _ _ =>
    match form with
    | .identifier _ | .member _ | .otherMember | .parentMember | .chain | .parentheses | .typed
    | .presentAsserted | .arrayPattern | .objectPattern => true
    | _ => false

/-- Takes an expression as the left side of an assignment; `plain` if it only assigns. -/
def assignmentTarget (plain : Bool) (target : Node) : Reader Node := do
  let pattern ←
    match plain, target.form with
    | true, .array _ | true, .object _ => do
      let (pattern, faults) := asPattern .assigned target
      noteAll faults
      pure pattern
    | true, _ => do
      checkTarget true target
      pure target
    | false, .identifier name => do
      if isRestricted name then noteAt target.start .restrictedBinding
      pure target
    | false, _ => do
      unless isSimpleTarget target do noteAt target.start .badAssignmentTarget
      pure target
  if isAssignable pattern then return pattern
  else failAt target.start .badAssignmentTarget

end Source
end KeyedText

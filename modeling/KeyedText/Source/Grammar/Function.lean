import KeyedText.Source.Grammar.Type

/-!
# Functions

A function is its parameters and a body; a declaration that only describes a function has no
body.  The body starts a scope of its own for `await`, `yield`, `return`, loops and labels.
-/

namespace KeyedText
namespace Source

open Reader

/-! ## Blocks -/

/-- Reads a block of statements. -/
def block : Reader Node := do
  let start ← position
  expect .openBrace
  let statements ←
    inScope (fun scope => { scope with topLevel := false, usingAllowed := true })
      (repeating
        (fun (read : List Node) => do
          if ← accept .closeBrace then return .inr read.reverse
          else if ← atFinish then
            note (.expected "\x7d" "<eof>")
            return .inr read.reverse
          else return .inl ((← descend (.statement true)) :: read))
        [])
  node start .block statements

/-- Whether a statement is a directive. -/
def directive? : Node → Option (Option String × Span)
  | .mk .expressionStatement _ [.mk (.string value) span _] => some (value, span)
  | _ => none

/-- Where a block asks for strict code, if it does. -/
def strictDirective? (body : Node) : Option Span :=
  ((body.parts.map directive?).takeWhile Option.isSome).findSome? fun found =>
    match found with
    | some (some "use strict", span) => some span
    | _ => none

/-! ## Bodies -/

/-- The scope of the code in a function. -/
def functionScope (isAsync isGenerator isArrow : Bool) (scope : Scope) : Scope :=
  { scope with
    inAsync := isAsync
    inGenerator := isGenerator
    hasNewTarget := scope.hasNewTarget || !isArrow
    inFunction := true
    inParameters := false
    breaks := false
    continues := false
    topLevel := false
    inNamespace := false
    labels := [] }

/-- Reads the body of a function, or the end of a declaration that has none. -/
def functionBody (isAsync isGenerator isArrow isSimple : Bool) : Reader (Option Node) := do
  if (← scope).ambient && (← at? .openBrace) then note .ambientBody
  let ended ← if ← at? .openBrace then pure false else acceptStatementEnd
  if ended then return none
  else
    let body ← inScope (functionScope isAsync isGenerator isArrow) block
    match isSimple, strictDirective? body with
    | false, some span => noteAt span.start .lateStrictDirective
    | _, _ => pure ()
    return some body

/-- Reads the body of an arrow function. -/
def arrowBody (isAsync isSimple : Bool) : Reader Node := do
  if ← at? .openBrace then
    match ← functionBody isAsync false true isSimple with
    | some body => return body
    | none => unexpected "\x7b"
  else inScope (functionScope isAsync false true) (descend .assignment)

/-- The scope of the parameters of a function. -/
def parameterScope (isAsync isGenerator : Bool) (scope : Scope) : Scope :=
  { scope with
    inParameters := true
    inFunction := false
    inAsync := isAsync
    inGenerator := isGenerator
    colonAhead := false
    inConditional := false }

/-- Reads what follows the name of a function: its parameters, its type and its body.  Answers
the parts and whether there is a body. -/
def functionRest (isAsync isGenerator : Bool) (check : List Node → Reader Unit) :
    Reader (List Node × Bool) := do
  let generics ← typeParameters? false
  expect .openParen
  let read ← inScope (parameterScope isAsync isGenerator) parameters
  check read
  expect .closeParen
  let returned ← returnedType?
  let body ← functionBody isAsync isGenerator false (read.all isSimpleParameter)
  if body.isNone then
    for parameter in read do
      if hasDefault parameter then noteAt parameter.start .badParameters
  return (generics ++ read ++ returned ++ body.toList, body.isSome)

/-- The scope of a function with a receiver of its own. -/
def ownReceiver (scope : Scope) : Scope :=
  { scope with inClassField := false, colonAhead := false, inConditional := false }

/-- Reads a function from its keyword on.  A declaration requires a name. -/
def functionFrom (start : Nat) (isAsync isExpression needsName : Bool) : Reader Node := do
  expectWord "function"
  let isGenerator ← accept .star
  let name ← do
    if needsName then pure [← bindingName]
    else if ← atName then pure [← bindingName]
    else pure []
  let (parts, complete) ←
    inScope ownReceiver (functionRest isAsync isGenerator fun _ => pure ())
  if isExpression && !complete then unexpected "\x7b"
  node start (if isExpression then .function else .declaration) (name ++ parts)

/-- Reads a function whose keyword may be preceded by `async`. -/
def functionHere (isExpression needsName : Bool) : Reader Node := do
  let start ← position
  let isAsync ← acceptWord "async"
  functionFrom start isAsync isExpression needsName

/-! ## Methods -/

/-- The kinds of methods. -/
inductive MethodKind where
  /-- A method that is called. -/
  | plain
  /-- A method that is called to read a member. -/
  | getter
  /-- A method that is called to write a member. -/
  | setter
deriving DecidableEq

/-- Notes parameters that the kind of a method does not allow. -/
def checkMethodParameters (kind : MethodKind) (keyStart : Nat) (read : List Node) :
    Reader Unit := do
  let real := read.filter fun parameter => !isReceiverParameter parameter
  match kind with
  | .plain => pure ()
  | .getter => unless real.isEmpty do noteAt keyStart .badParameters
  | .setter =>
    unless real.length == 1 do noteAt keyStart .badParameters
    if real.any isRestPattern then noteAt keyStart .badParameters

/-- Reads what follows the key of a method. -/
def methodRest (kind : MethodKind) (isAsync isGenerator : Bool) (keyStart : Nat) :
    Reader (List Node × Bool) :=
  inScope ownReceiver
    (functionRest isAsync isGenerator (checkMethodParameters kind keyStart))

end Source
end KeyedText

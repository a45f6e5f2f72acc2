import KeyedText.Source.Node
import KeyedText.Source.Scan

/-!
# Reading a source text

A reader stands at a token of the text and moves forward.  It notes faults and goes on, or fails
with a fault and stops.  The grammar calls itself through `descend`, which the depth of nesting
bounds, so every reader is a total function.
-/

namespace KeyedText
namespace Source

/-- Where a reader stands. -/
structure Cursor where
  /-- The text from the start of the current token. -/
  text : List Char
  /-- The position of the current token. -/
  start : Nat
  /-- The current token. -/
  token : Token
  /-- The text behind the current token. -/
  rest : List Char
  /-- The position behind the current token. -/
  stop : Nat
  /-- Whether a line break stands in front of the current token. -/
  newline : Bool
  /-- The position behind the token before the current one. -/
  previousStop : Nat
  /-- The position of the token before the current one. -/
  previousStart : Nat
  /-- The noted faults, latest first. -/
  faults : List Fault
  /-- Whether faults are passed over instead of noted. -/
  muted : Bool

/-- What surrounds the construct that is being read. -/
structure Scope where
  /-- `in` is an operator here. -/
  inOperator : Bool := false
  /-- The code belongs to a function. -/
  inFunction : Bool := false
  /-- The code belongs to an asynchronous function. -/
  inAsync : Bool := false
  /-- The code belongs to a generator. -/
  inGenerator : Bool := false
  /-- The code belongs to the parameters of a function. -/
  inParameters : Bool := false
  /-- The code belongs to the value of a class member. -/
  inClassField : Bool := false
  /-- `new.target` has a meaning here. -/
  hasNewTarget : Bool := false
  /-- `break` has a meaning here. -/
  breaks : Bool := false
  /-- `continue` has a meaning here. -/
  continues : Bool := false
  /-- The statement is an item of the module. -/
  topLevel : Bool := false
  /-- The statement is an item of a namespace. -/
  inNamespace : Bool := false
  /-- The code only describes what exists elsewhere. -/
  ambient : Bool := false
  /-- The class has a parent class. -/
  hasParent : Bool := false
  /-- The expression is a branch of a conditional one. -/
  inConditional : Bool := false
  /-- A colon that ends a branch of a conditional expression is still ahead. -/
  colonAhead : Bool := false
  /-- A conditional type may not stand here without parentheses. -/
  plainTypes : Bool := false
  /-- A `using` declaration may stand here. -/
  usingAllowed : Bool := false
  /-- Where an arrow function may start. -/
  arrowStart : Option Nat := none
  /-- The labels around the statement. -/
  labels : List String := []

/-- The constructs through which the grammar calls itself. -/
inductive Construct where
  /-- Expressions separated by commas. -/
  | expression
  /-- An expression without a comma. -/
  | assignment
  /-- An operand with the operators behind it that bind tighter than a bound. -/
  | operation (bound : Nat)
  /-- An operand with its unary operators. -/
  | unary
  /-- An operand with its calls and members. -/
  | operand
  /-- An operand of `new`, or a chain of members. -/
  | construction
  /-- An element or fragment up to its last bracket. -/
  | element
  /-- A pattern or name that is bound. -/
  | bindingTarget
  /-- A type. -/
  | type
  /-- A type that is not conditional. -/
  | plainType
  /-- A type with its unary operators. -/
  | typeOperator
  /-- A statement, or also a declaration. -/
  | statement (declarations : Bool)
  /-- An item of a module or namespace. -/
  | item
deriving DecidableEq, Repr

/-- A computation that moves a cursor and can fail. -/
abbrev Step (α : Type) := EStateM Fault Cursor α

/-- What a reader can ask for. -/
structure Surroundings where
  /-- What surrounds the construct that is being read. -/
  scope : Scope
  /-- A bound for the number of rounds of a loop over the text. -/
  limit : Nat
  /-- Reads a construct inside a scope. -/
  descendInto : Construct → Scope → Step Node

/-- A reader. -/
abbrev Reader (α : Type) := ReaderT Surroundings (EStateM Fault Cursor) α

namespace Reader

/-- What surrounds the construct that is being read. -/
def scope : Reader Scope := do
  return (← read).scope

/-- Runs a reader inside a changed scope. -/
def inScope (change : Scope → Scope) (body : Reader α) : Reader α := fun surroundings =>
  body { surroundings with scope := change surroundings.scope }

/-- Reads a construct through the recursion of the grammar. -/
def descend (construct : Construct) : Reader Node := fun surroundings =>
  surroundings.descendInto construct surroundings.scope

/-! ## Faults -/

/-- Notes a fault, unless faults are passed over. -/
def noteAt (position : Nat) (cause : Cause) : Reader Unit :=
  modify fun cursor =>
    if cursor.muted then cursor
    else { cursor with faults := ⟨position, cause⟩ :: cursor.faults }

/-- Notes a fault at the current token. -/
def note (cause : Cause) : Reader Unit := do
  noteAt (← get).start cause

/-- Fails at a position, or with the fault of the current token if that is broken. -/
def failAt (position : Nat) (cause : Cause) : Reader α := do
  match (← get).token with
  | .broken fault => throw fault
  | _ => throw ⟨position, cause⟩

/-- Fails at the current token. -/
def fail (cause : Cause) : Reader α := do
  failAt (← get).start cause

/-- Fails because the current token cannot stand here. -/
def unexpected (wanted : String) : Reader α := do
  fail (.unexpected (← get).token.spelling wanted)

/-! ## Moving -/

/-- Puts a scanned token in front of the cursor. -/
def settle (text : List Char) (start : Nat) (newline : Bool) (faults : List Fault)
    (scanned : Scanned) : Reader Unit :=
  modify fun cursor =>
    { cursor with
      text, start, newline
      token := scanned.token
      rest := scanned.rest
      stop := scanned.stop
      previousStop := cursor.stop
      previousStart := cursor.start
      faults := if cursor.muted then cursor.faults else scanned.faults ++ faults ++ cursor.faults }

/-- Moves past the current token with a scan for the next one, gaps skipped. -/
def advanceWith (scan : Nat → List Char → Scanned) : Reader Unit := do
  let cursor ← get
  match cursor.token with
  | .broken fault => throw fault
  | _ =>
    let gap := skipGap .free false [] cursor.stop cursor.rest
    match gap.broken with
    | some fault =>
      settle gap.rest gap.stop gap.newline gap.faults ⟨.broken fault, [], gap.stop, []⟩
    | none => settle gap.rest gap.stop gap.newline gap.faults (scan gap.stop gap.rest)

/-- Moves past the current token. -/
def advance : Reader Unit :=
  advanceWith scanToken

/-- Moves past the mark that ends a tag, or braces between tags, to the text behind it. -/
def advanceElement : Reader Unit := do
  let cursor ← get
  settle cursor.rest cursor.stop false [] (scanElementToken cursor.stop cursor.rest)

/-- Moves past the sign between an attribute and its value. -/
def advanceAttribute : Reader Unit :=
  advanceWith fun position text =>
    match text.head? with
    | some '"' | some '\'' => scanAttributeValue position text
    | _ => scanToken position text

/-- Scans the current token again in another way. -/
def rescan (scan : Nat → List Char → Scanned) : Reader Unit :=
  modify fun cursor =>
    let scanned := scan cursor.start cursor.text
    { cursor with
      token := scanned.token
      rest := scanned.rest
      stop := scanned.stop
      faults := if cursor.muted then cursor.faults else scanned.faults ++ cursor.faults }

/-- Cuts the current token to its first character, which is the given mark. -/
def cutTo (mark : Mark) : Reader Unit :=
  rescan fun position text => ⟨.mark mark, text.tail, position + 1, []⟩

/-! ## Looking -/

/-- The current token. -/
def token : Reader Token := do
  return (← get).token

/-- Where the current token starts. -/
def position : Reader Nat := do
  return (← get).start

/-- Where the token before the current one ends. -/
def behind : Reader Nat := do
  return (← get).previousStop

/-- Whether a line break stands in front of the current token. -/
def onNewLine : Reader Bool := do
  return (← get).newline

/-- Whether the current token is a mark. -/
def at? (mark : Mark) : Reader Bool := do
  match (← get).token with
  | .mark found => return found == mark
  | _ => return false

/-- Whether the current token is one of several marks. -/
def atAny (marks : List Mark) : Reader Bool := do
  match (← get).token with
  | .mark found => return marks.contains found
  | _ => return false

/-- Whether the current token is a word. -/
def atWord (word : String) : Reader Bool := do
  match (← get).token with
  | .word found => return found == word
  | _ => return false

/-- Whether the current token is one of several words. -/
def atAnyWord (words : List String) : Reader Bool := do
  match (← get).token with
  | .word found => return words.contains found
  | _ => return false

/-- The current token, if it is a word. -/
def word? : Reader (Option String) := do
  match (← get).token with
  | .word found => return some found
  | _ => return none

/-- Whether the text ends here. -/
def atFinish : Reader Bool := do
  return (← get).token == .finish

/-- Whether the current token is a number. -/
def atNumber : Reader Bool := do
  match (← get).token with
  | .number _ => return true
  | _ => return false

/-- Whether the current token is a string. -/
def atString : Reader Bool := do
  match (← get).token with
  | .string _ => return true
  | _ => return false

/-- Whether the current token names a variable. -/
def atName : Reader Bool := do
  match (← get).token with
  | .word found =>
    let yields := (← scope).inGenerator && found == "yield"
    return !isReserved found && found != "await" && !yields
  | _ => return false

/-- Runs a reader and puts the cursor back; faults are passed over, and failing counts as no. -/
def ahead (body : Reader Bool) : Reader Bool := fun surroundings cursor =>
  match body surroundings { cursor with muted := true } with
  | .ok answer _ => .ok answer cursor
  | .error _ _ => .ok false cursor

/-- Whether the token behind the current one fits a condition, told whether a line break stands
between the two. -/
def next (fits : Token → Bool → Bool) : Reader Bool :=
  ahead do
    advance
    let cursor ← get
    return fits cursor.token cursor.newline

/-- Whether the token behind the current one is a mark. -/
def nextIs (mark : Mark) : Reader Bool :=
  next fun token _ => token == .mark mark

/-- Whether the token behind the current one is a word. -/
def nextIsWord (word : String) : Reader Bool :=
  next fun token _ => token == .word word

/-- Runs a reader, passing over faults; the cursor is put back unless it succeeds with a result. -/
def attempt (body : Reader (Option α)) : Reader (Option α) := fun surroundings cursor =>
  match body surroundings { cursor with muted := true } with
  | .ok (some result) reached => .ok (some result) { reached with muted := cursor.muted }
  | _ => .ok none cursor

/-- Runs a reader and hands its fault, with the cursor where it failed, to another one. -/
def recover (body : Reader α) (handle : Fault → Reader α) : Reader α := fun surroundings cursor =>
  match body surroundings cursor with
  | .ok result reached => .ok result reached
  | .error fault reached => handle fault surroundings reached

/-! ## Taking tokens -/

/-- Takes a mark if it stands here. -/
def accept (mark : Mark) : Reader Bool := do
  if ← at? mark then
    advance
    return true
  else return false

/-- Takes a word if it stands here. -/
def acceptWord (word : String) : Reader Bool := do
  if ← atWord word then
    advance
    return true
  else return false

/-- Fails because another token is required here. -/
def missing (wanted : String) : Reader α := do
  fail (.expected wanted (← get).token.spelling)

/-- Takes a mark that has to stand here. -/
def expect (mark : Mark) : Reader Unit := do
  unless ← accept mark do missing mark.spelling

/-- Requires a mark to stand here, without taking it. -/
def require (mark : Mark) : Reader Unit := do
  unless ← at? mark do missing mark.spelling

/-- Takes a word that has to stand here. -/
def expectWord (word : String) : Reader Unit := do
  unless ← acceptWord word do missing word

/-- Whether a statement can end here without a semicolon, or ends with one. -/
def atStatementEnd : Reader Bool := do
  let cursor ← get
  return cursor.newline || cursor.token == .finish || cursor.token == .mark .semicolon
    || cursor.token == .mark .closeBrace

/-- Ends a statement if it can end here. -/
def acceptStatementEnd : Reader Bool := do
  if ← accept .semicolon then return true
  atStatementEnd

/-- Ends a statement. -/
def expectStatementEnd : Reader Unit := do
  unless ← acceptStatementEnd do missing ";"

/-! ## Repeating -/

/-- Repeats a step until it gives a result, for at most the given number of rounds. -/
def repeatFor (step : σ → Reader (Sum σ α)) : Nat → σ → Reader α
  | 0, _ => fail .tooDeep
  | rounds + 1, state => do
    match ← step state with
    | .inl state => repeatFor step rounds state
    | .inr result => return result

/-- Repeats a step until it gives a result.  Every round takes a token, so the length of the text
bounds the rounds. -/
def repeating (step : σ → Reader (Sum σ α)) (state : σ) : Reader α := do
  repeatFor step (← read).limit state

/-- Reads nodes until a condition holds. -/
def many (done : Reader Bool) (body : Reader Node) : Reader (List Node) :=
  repeating
    (fun (read : List Node) => do
      if ← done then return .inr read.reverse
      else return .inl ((← body) :: read))
    []

/-! ## Building nodes -/

/-- A node from a start to the end of the token before the current one. -/
def node (start : Nat) (form : Form) (parts : List Node) : Reader Node := do
  return .mk form ⟨start, ← behind⟩ parts

/-- Takes the current token as a node without parts. -/
def leaf (form : Form) : Reader Node := do
  let start ← position
  advance
  node start form []

end Reader

end Source
end KeyedText

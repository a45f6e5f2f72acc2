import KeyedText.Source.Grammar.Module

/-!
# Programs

The grammar calls itself through `readAt`, which recurses on a bound for the depth of nesting.  A
construct that calls itself without taking a token does so at most a fixed number of times, so a
bound that is a multiple of the length of the text is never reached.
-/

namespace KeyedText
namespace Source

open Reader

/-- The rule that reads a construct. -/
def rule : Construct → Reader Node
  | .expression => expression
  | .assignment => assignment
  | .operation bound => operation bound
  | .unary => unary
  | .operand => operand
  | .construction => construction
  | .element => element
  | .bindingTarget => bindingTarget
  | .type => typeExpression
  | .plainType => plainType
  | .typeOperator => typeOperator
  | .statement declarations => statement declarations
  | .item => item

/-- Reads a construct inside a scope, nested at most to a depth. -/
def readAt (limit : Nat) : Nat → Construct → Scope → Step Node
  | 0, _, _ => fun cursor => .error ⟨cursor.start, .tooDeep⟩ cursor
  | depth + 1, construct, scope => rule construct ⟨scope, limit, readAt limit depth⟩

/-- The text of a module behind a byte order mark. -/
def withoutMark : List Char → List Char
  | '\ufeff' :: text => text
  | text => text

/-- A cursor in front of the first token of a text.  A first line that names an interpreter is
skipped. -/
def Cursor.atStart (text : List Char) : Cursor :=
  let skipped := if ['#', '!'].isPrefixOf text then text.takeWhile (!isLineTerminator ·) else []
  ⟨text, 0, .finish, text.drop skipped.length, skipped.length, true, 0, 0, [], false⟩

/-- Reads the items of a module. -/
def items : Reader Node := do
  advance
  let start ← position
  let read ← many atFinish (descend .item)
  node start .program read

/-- The scope of the items of a module. -/
def Scope.ofModule : Scope :=
  { inOperator := true, topLevel := true, usingAllowed := true }

/-- Reads the text of a module, without a byte order mark.  A fault that ends the reading counts
before the noted ones, and of these the first counts. -/
def readProgram (text : List Char) : Except Fault Node :=
  let limit := text.length + 2
  match items ⟨.ofModule, limit, readAt limit (16 * limit)⟩ (.atStart text) with
  | .error fault _ => .error fault
  | .ok program cursor =>
    match cursor.faults.getLast? with
    | some fault => .error fault
    | none => .ok program

end Source
end KeyedText

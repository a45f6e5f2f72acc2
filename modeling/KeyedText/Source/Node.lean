import KeyedText.Source.Position

/-!
# Syntax trees

A source text is read into a tree.  A node has a form, the span that it covers, and its parts in
the order in which they stand in the text.  Only the forms that later stages look at carry data;
the others tell constructs apart that the grammar treats differently.
-/

namespace KeyedText
namespace Source

/-- The forms of nodes. -/
inductive Form where
  /-- A variable. -/
  | identifier (name : String)
  /-- A string with its value, which is missing if it is no valid text. -/
  | string (value : Option String)
  /-- A template with the values of its chunks; the parts are the interpolated expressions. -/
  | template (chunks : List (Option String))
  /-- A template that a function reads: the function and the interpolated expressions. -/
  | taggedTemplate
  /-- An expression in parentheses. -/
  | parentheses
  /-- A condition, the value if it holds, and the value if it does not. -/
  | conditional
  /-- An object and the name of its member. -/
  | member (name : String)
  /-- A callee and its arguments. -/
  | call
  /-- A key and its value in an object, with the name that the key spells. -/
  | property (key : Option String)
  /-- An element: its opening tag and its children. -/
  | element (tag : String)
  /-- The opening tag of an element: type arguments and attributes. -/
  | opening
  /-- Children without an element. -/
  | fragment
  /-- An attribute and its value, if it has one. -/
  | attribute (name : String)
  /-- Text between tags, with character references resolved. -/
  | elementText (value : String)
  /-- Braces around an expression, or around nothing. -/
  | container
  /-- Braces around a spread among the attributes or children of an element. -/
  | elementSpread
  /-- An object; `trailing` is the position of a comma behind the last property. -/
  | object (trailing : Option Nat)
  /-- An array; `trailing` is the position of a comma behind the last element. -/
  | array (trailing : Option Nat)
  /-- A missing element of an array. -/
  | hole
  /-- Three dots and the expression whose elements they add. -/
  | spread
  /-- A property named like the variable that it holds. -/
  | shorthand (name : String)
  /-- A shorthand with a default value, as only a pattern can have it. -/
  | shorthandDefault (name : String)
  /-- A method, getter or setter of an object. -/
  | method
  /-- A numeral, a regular expression, or another literal. -/
  | literal
  /-- The receiver of a method. -/
  | receiver
  /-- A function expression. -/
  | function
  /-- An arrow function. -/
  | arrow
  /-- A class. -/
  | classDefinition
  /-- A binary operation. -/
  | binary
  /-- A logical operation other than the nullish one. -/
  | logical
  /-- A unary operation. -/
  | unary
  /-- An increment or decrement. -/
  | update
  /-- `await` and its operand. -/
  | await
  /-- `yield` and its operand, if it has one. -/
  | yield
  /-- An assignment; `plain` if it only assigns. -/
  | assignment (plain : Bool)
  /-- Expressions separated by commas. -/
  | sequence
  /-- The construction of an object; `complete` if arguments are given. -/
  | construction (complete : Bool)
  /-- A member chosen by an expression, or a private one. -/
  | otherMember
  /-- A member of the parent class. -/
  | parentMember
  /-- A member or call in a chain that stops at a missing value. -/
  | chain
  /-- `new.target` or `import.meta`. -/
  | metaProperty
  /-- A private name. -/
  | privateName
  /-- An expression with a type: asserted, checked, or instantiated. -/
  | typed
  /-- An expression asserted to be constant. -/
  | constantAsserted
  /-- An expression asserted to be present. -/
  | presentAsserted
  /-- A pattern for arrays. -/
  | arrayPattern
  /-- A pattern for objects. -/
  | objectPattern
  /-- A pattern with a default value. -/
  | defaultPattern
  /-- Three dots and the pattern that takes the rest. -/
  | restPattern
  /-- A key and the pattern for its value. -/
  | propertyPattern
  /-- A variable that takes the property of its name. -/
  | shorthandPattern
  /-- A type, or a part of one. -/
  | type
  /-- The initial value of a pattern or variable, and what else belongs to a binding. -/
  | binding
  /-- The parameters of a function. -/
  | parameters
  /-- A list of variable declarations. -/
  | variableDeclaration
  /-- A block of statements. -/
  | block
  /-- An expression that stands as a statement. -/
  | expressionStatement
  /-- A statement of any other kind. -/
  | statement
  /-- A member of a class. -/
  | classMember
  /-- A declaration of any other kind, an import, or an export. -/
  | declaration
  /-- An expression that could not be read. -/
  | missing
  /-- A whole module. -/
  | program
deriving DecidableEq, Repr

/-- A syntax tree. -/
inductive Node where
  /-- A node with its form, its span, and its parts. -/
  | mk (form : Form) (span : Span) (parts : List Node)
deriving Repr

namespace Node

/-- The form of a node. -/
def form : Node → Form
  | mk form _ _ => form

/-- The span of a node. -/
def span : Node → Span
  | mk _ span _ => span

/-- The parts of a node. -/
def parts : Node → List Node
  | mk _ _ parts => parts

@[simp] theorem form_mk (form : Form) (span : Span) (parts : List Node) :
    (mk form span parts).form = form := rfl

@[simp] theorem span_mk (form : Form) (span : Span) (parts : List Node) :
    (mk form span parts).span = span := rfl

@[simp] theorem parts_mk (form : Form) (span : Span) (parts : List Node) :
    (mk form span parts).parts = parts := rfl

/-- Where a node starts. -/
def start (node : Node) : Nat :=
  node.span.start

/-- Where a node stops. -/
def stop (node : Node) : Nat :=
  node.span.stop

/-- The expression inside any number of parentheses. -/
def unwrapped : Node → Node
  | mk .parentheses _ [inner] => unwrapped inner
  | node => node
termination_by structural node => node

/-- The value of a string, looked for through parentheses, and the span of that string. -/
def literal? (node : Node) : Option (Option String × Span) :=
  match node.unwrapped with
  | mk (.string value) span _ => some (value, span)
  | _ => none

end Node

end Source
end KeyedText

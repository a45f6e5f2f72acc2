/-!
# Faults of a source text

A source text that is not a module of the language has faults.  Some end the reading, others are
noted and the reading goes on; either kind makes the text unusable.
-/

namespace KeyedText
namespace Source

/-- What is wrong with a source text. -/
inductive Cause where
  /-- An expression should start here. -/
  | expressionExpected
  /-- A statement should end here. -/
  | statementEndExpected
  /-- One token is required and another one stands here. -/
  | expected (wanted found : String)
  /-- A token that cannot stand here, with what could. -/
  | unexpected (found wanted : String)
  /-- A name should stand here. -/
  | nameExpected
  /-- The text ends too early. -/
  | endOfText
  /-- A character that starts no token. -/
  | strayCharacter (character : Char)
  /-- A string that its line or the text ends. -/
  | unterminatedString
  /-- A template that the text ends. -/
  | unterminatedTemplate
  /-- A regular expression that its line or the text ends. -/
  | unterminatedRegex
  /-- A comment that the text ends. -/
  | unterminatedComment
  /-- An escape sequence that stands for no character. -/
  | badEscape
  /-- An escape sequence inside a reserved word. -/
  | escapedReservedWord
  /-- An octal number or escape of the old form. -/
  | legacyOctal
  /-- A decimal number with a leading zero. -/
  | legacyDecimal
  /-- A digit should stand here. -/
  | digitExpected
  /-- A separator that does not stand between two digits. -/
  | misplacedSeparator
  /-- A name directly behind a number. -/
  | nameAfterNumber
  /-- Unknown or repeated flags of a regular expression. -/
  | badRegexFlags
  /-- A comment of the old markup form. -/
  | markupComment
  /-- A closing bracket of any kind in the text of an element. -/
  | strayInElementText
  /-- A closing tag that does not match the opening one. -/
  | closingTagMismatch
  /-- An empty expression as the value of an attribute. -/
  | emptyAttributeValue
  /-- Something that is no value for an attribute. -/
  | badAttributeValue
  /-- An operand that cannot be assigned to. -/
  | badAssignmentTarget
  /-- An expression that is no pattern. -/
  | badPattern
  /-- A name that strict code reserves. -/
  | reservedName
  /-- A binding for `eval` or `arguments`. -/
  | restrictedBinding
  /-- A default value in an object that is not a pattern. -/
  | defaultOutsidePattern
  /-- A reserved word as a short property. -/
  | reservedShorthand
  /-- Something behind a rest element. -/
  | restNotLast
  /-- A default value for a rest element. -/
  | restWithDefault
  /-- Parentheses around nothing. -/
  | emptyParentheses
  /-- A spread in parentheses. -/
  | spreadInParentheses
  /-- An arrow that starts its line, or cannot stand here. -/
  | misplacedArrow
  /-- A unary operand of a power. -/
  | unaryPowerOperand
  /-- The nullish operator next to a logical one without parentheses. -/
  | mixedNullish
  /-- `await` where no asynchronous code runs. -/
  | misplacedAwait
  /-- `yield` among parameters. -/
  | misplacedYield
  /-- `new.target` outside functions. -/
  | misplacedNewTarget
  /-- A use of `super` or `import` that is neither a call nor a member. -/
  | badKeywordUse
  /-- `new` with an optional chain, or a template behind one. -/
  | badOptionalChain
  /-- A constant without a value. -/
  | constantWithoutValue
  /-- A pattern without a value to take apart. -/
  | patternWithoutValue
  /-- A declaration where only a statement may stand. -/
  | misplacedDeclaration
  /-- `return` outside functions. -/
  | misplacedReturn
  /-- `break` outside loops and switches, or to an unknown label. -/
  | misplacedBreak
  /-- `continue` outside loops, or to an unknown label. -/
  | misplacedContinue
  /-- A line break behind `throw`. -/
  | lineBreakInThrow
  /-- A second default clause of a switch. -/
  | secondDefault
  /-- A label inside a statement of the same label. -/
  | repeatedLabel
  /-- A labelled function. -/
  | labelledFunction
  /-- A `with` statement. -/
  | withStatement
  /-- A loop head with too many or too eager variables. -/
  | badLoopHead
  /-- `for await` with something other than `of`. -/
  | misplacedForAwait
  /-- A `using` declaration in the wrong place or form. -/
  | badUsing
  /-- An import or export below the top level. -/
  | nestedModuleItem
  /-- A name or text that an import or export cannot bind. -/
  | badModuleBinding
  /-- A class with two constructors. -/
  | secondConstructor
  /-- A member that no class can have. -/
  | badClassMember
  /-- An abstract member of a class that is not abstract, or with a body. -/
  | badAbstractMember
  /-- A modifier that cannot stand here. -/
  | badModifier
  /-- A heritage clause that cannot stand here. -/
  | badHeritage
  /-- A parameter list that its function cannot have. -/
  | badParameters
  /-- A parameter that would declare a property. -/
  | parameterProperty
  /-- A strict directive in a function with patterns for parameters. -/
  | lateStrictDirective
  /-- A declared name that the type language reserves. -/
  | reservedTypeName
  /-- A body in a declaration that only describes. -/
  | ambientBody
  /-- A member that no enumeration can have. -/
  | badEnumMember
  /-- A type that is malformed. -/
  | badType
  /-- Text that is nested deeper than any text of its length. -/
  | tooDeep
deriving DecidableEq, Repr

/-- The wording of a cause. -/
def Cause.message : Cause → String
  | expressionExpected => "Expression expected"
  | statementEndExpected => "Expected ';', '\x7d' or <eof>"
  | expected wanted found => "Expected '" ++ wanted ++ "', got '" ++ found ++ "'"
  | unexpected found wanted => "Unexpected token \x60" ++ found ++ "\x60. Expected " ++ wanted
  | nameExpected => "Expected ident"
  | endOfText => "Unexpected eof"
  | strayCharacter character => "Unexpected character '" ++ String.singleton character ++ "'"
  | unterminatedString => "Unterminated string constant"
  | unterminatedTemplate => "Unterminated template"
  | unterminatedRegex => "Unterminated regexp literal"
  | unterminatedComment => "Unterminated block comment"
  | badEscape => "Invalid escape sequence"
  | escapedReservedWord => "Unicode escapes are not allowed in reserved words"
  | legacyOctal => "Legacy octal literals are not available when targeting ECMAScript 5 and higher"
  | legacyDecimal => "Legacy decimal literals are not permitted in strict mode"
  | digitExpected => "Expected a digit"
  | misplacedSeparator => "A numeric separator is only allowed between two digits"
  | nameAfterNumber => "Identifier cannot follow number"
  | badRegexFlags => "Unknown regular expression flags."
  | markupComment => "Legacy comments cannot be used in module code"
  | strayInElementText => "Unexpected token. Did you mean an escaped bracket?"
  | closingTagMismatch => "Expected corresponding JSX closing tag"
  | emptyAttributeValue => "JSX attributes must only be assigned a non-empty expression"
  | badAttributeValue => "JSX value should be either an expression or a quoted JSX text"
  | badAssignmentTarget => "Cannot assign to this"
  | badPattern => "Not a pattern"
  | reservedName => "Invalid identifier in strict mode"
  | restrictedBinding =>
    "'eval' and 'arguments' cannot be used as a binding identifier in strict mode"
  | defaultOutsidePattern => "Assignment property is invalid syntax"
  | reservedShorthand => "Cannot use a reserved word as a shorthand property"
  | restNotLast => "Rest element must be final element"
  | restWithDefault => "A rest parameter cannot have an initializer"
  | emptyParentheses => "Parenthesized expression cannot be empty"
  | spreadInParentheses => "Parenthesized expression cannot contain spread operator"
  | misplacedArrow => "Unexpected arrow"
  | unaryPowerOperand => "'**' cannot be applied to unary operator"
  | mixedNullish =>
    "Nullish coalescing operator(??) requires parens when mixing with logical operators"
  | misplacedAwait => "await isn't allowed in non-async function"
  | misplacedYield => "'yield' cannot be used as a parameter within generator"
  | misplacedNewTarget => "'new.target' is only allowed in the body of a function"
  | badKeywordUse => "Invalid access to super or import"
  | badOptionalChain => "Constructor in/after an optional chaining is not allowed"
  | constantWithoutValue => "Const declarations require an initialization"
  | patternWithoutValue => "Destructuring bindings require initializers"
  | misplacedDeclaration => "Declaration is not allowed"
  | misplacedReturn => "Return statement is not allowed here"
  | misplacedBreak => "Jump target cannot cross function boundary."
  | misplacedContinue => "Jump target cannot cross function boundary."
  | lineBreakInThrow => "LineBreak cannot follow 'throw'"
  | secondDefault => "A switch block cannot have multiple defaults"
  | repeatedLabel => "Label is already declared"
  | labelledFunction => "Labelled function declarations are not allowed in strict mode"
  | withStatement => "With statement are not allowed in strict mode"
  | badLoopHead => "A loop head declares one variable without a value"
  | misplacedForAwait => "for await syntax is valid only for for-of statement"
  | badUsing => "Using declaration is not allowed here"
  | nestedModuleItem => "'import', and 'export' cannot be used outside of module code"
  | badModuleBinding => "A module binding needs a name"
  | secondConstructor => "A class may only have one constructor"
  | badClassMember => "Unexpected class member"
  | badAbstractMember => "Abstract methods can only appear within an abstract class."
  | badModifier => "This modifier cannot be used here."
  | badHeritage => "Unexpected heritage clause"
  | badParameters => "Unexpected parameters"
  | parameterProperty => "A parameter property is only allowed in a constructor implementation"
  | lateStrictDirective =>
    "Illegal 'use strict' directive in function with non-simple parameter list."
  | reservedTypeName => "This name is reserved for a predefined type"
  | ambientBody => "An implementation cannot be declared in ambient contexts."
  | badEnumMember => "Unexpected member of an enumeration"
  | badType => "Unexpected type"
  | tooDeep => "Unexpected nesting"

/-- A cause with the position at which it shows. -/
structure Fault where
  /-- Where the fault shows. -/
  position : Nat
  /-- What is wrong. -/
  cause : Cause
deriving DecidableEq, Repr

end Source
end KeyedText

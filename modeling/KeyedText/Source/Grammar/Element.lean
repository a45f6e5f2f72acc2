import KeyedText.Source.Grammar.Type

/-!
# Elements

An element is an opening tag with attributes, children, and a closing tag of the same name.  The
readers of this module stop at the last bracket of an element, because what stands behind it is
text of a parent element in one place and program text in another.
-/

namespace KeyedText
namespace Source

open Reader

/-- Reads a word of a tag, in which hyphens can stand. -/
def tagWord : Reader String := do
  match ← word? with
  | none => unexpected "jsx identifier"
  | some _ =>
    let name := scanElementName (← get).text
    rescan fun position text =>
      ⟨.word (String.ofList name), text.drop name.length, position + name.length, []⟩
    advance
    return String.ofList name

/-- The name of an element as it is written, and the part of it that counts as its tag. -/
structure ElementName where
  /-- The whole name. -/
  whole : String
  /-- The last word of a chain of members, or else the whole name. -/
  tag : String

/-- Reads the name of an element. -/
def elementName : Reader ElementName := do
  let first ← tagWord
  if ← accept .colon then
    let second ← tagWord
    return ⟨first ++ ":" ++ second, first ++ ":" ++ second⟩
  else
    repeating
      (fun (read : ElementName) => do
        if ← accept .dot then
          let name ← tagWord
          return .inl ⟨read.whole ++ "." ++ name, name⟩
        else return .inr read)
      ⟨first, first⟩

/-- The scope of an expression in braces. -/
def containerScope (scope : Scope) : Scope :=
  { scope with inOperator := true, colonAhead := false, inConditional := false }

/-- A node from a start to the end of the current token. -/
def nodeHere (start : Nat) (form : Form) (parts : List Node) : Reader Node := do
  return .mk form ⟨start, (← get).stop⟩ parts

/-- Reads the value of an attribute. -/
def attributeValue : Reader Node := do
  let start ← position
  match ← token with
  | .string value => leaf (.string value)
  | .mark .openBrace =>
    advance
    if ← at? .closeBrace then failAt start .emptyAttributeValue
    else
      let inner ← inScope containerScope (descend .expression)
      expect .closeBrace
      node start .container [inner]
  | .mark .less =>
    let element ← descend .element
    advance
    return element
  | _ => fail .badAttributeValue

/-- Reads an attribute, or a spread among the attributes. -/
def elementAttribute : Reader Node := do
  let start ← position
  if ← accept .openBrace then
    expect .ellipsis
    let inner ← inScope containerScope (descend .assignment)
    expect .closeBrace
    node start .elementSpread [inner]
  else
    let first ← tagWord
    let name ← if ← accept .colon then pure (first ++ ":" ++ (← tagWord)) else pure first
    if ← at? .assign then
      advanceAttribute
      let value ← attributeValue
      node start (.attribute name) [value]
    else node start (.attribute name) []

/-- Reads braces among children and moves on to the text behind them. -/
def childContainer : Reader Node := do
  let start ← position
  advance
  let (form, parts) ← do
    if ← at? .closeBrace then pure (Form.container, [])
    else if ← accept .ellipsis then
      pure (Form.elementSpread, [← inScope containerScope (descend .expression)])
    else pure (Form.container, [← inScope containerScope (descend .expression)])
  require .closeBrace
  let child ← nodeHere start form parts
  advanceElement
  return child

/-- Reads the children of an element from behind the bracket of its opening tag up to the bracket
of its closing tag. -/
def children : Reader (List Node) := do
  advanceElement
  repeating
    (fun (read : List Node) => do
      match ← token with
      | .elementText value =>
        let child ← nodeHere (← position) (.elementText value) []
        advanceElement
        return .inl (child :: read)
      | .mark .openBrace => return .inl ((← childContainer) :: read)
      | .mark .less =>
        if ← nextIs .slash then return .inr read.reverse
        else
          let child ← descend .element
          advanceElement
          return .inl (child :: read)
      | _ => missing "</")
    []

/-- Reads a closing tag up to its bracket; without a name it closes a fragment. -/
def closingTag (name : Option String) : Reader Unit := do
  let start ← position
  expect .less
  expect .slash
  let found ← do
    if ← at? .greater then pure none
    else pure (some (← elementName).whole)
  if found == name then require .greater
  else throw ⟨start, .closingTagMismatch⟩

/-- Reads an element or fragment up to its last bracket. -/
def element : Reader Node := do
  let start ← position
  expect .less
  if ← at? .greater then
    let content ← children
    closingTag none
    nodeHere start .fragment content
  else
    let openingStart := start
    let name ← elementName
    let generics ← do
      if ← at? .less then pure ((← attempt (do return some (← typeArguments))).getD [])
      else pure []
    let attributes ← many (atAny [.slash, .greater]) elementAttribute
    let isEmpty ← accept .slash
    require .greater
    let opening ← nodeHere openingStart .opening (generics ++ attributes)
    if isEmpty then nodeHere start (.element name.tag) [opening]
    else
      let content ← children
      closingTag (some name.whole)
      nodeHere start (.element name.tag) (opening :: content)

end Source
end KeyedText

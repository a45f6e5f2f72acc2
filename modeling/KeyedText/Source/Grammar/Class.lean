import KeyedText.Source.Grammar.Function

/-!
# Classes

The members of a class are methods, properties, index signatures and static blocks.  Each can
carry modifiers, and a modifier can also be the name of a member.
-/

namespace KeyedText
namespace Source

open Reader

/-- A member of a class, and what the class has to know of it. -/
structure ClassMember where
  /-- The member. -/
  node : Node
  /-- Whether it is a constructor with a body. -/
  constructs : Bool := false
  /-- Whether it is abstract. -/
  isAbstract : Bool := false

/-- The modifiers in front of a member. -/
structure Modifiers where
  /-- Where the member starts. -/
  start : Nat
  /-- `declare` stands in front. -/
  isDeclared : Bool := false
  /-- An access modifier stands in front. -/
  hasAccess : Bool := false
  /-- `static` stands in front. -/
  isStatic : Bool := false
  /-- `abstract` stands in front. -/
  isAbstract : Bool := false
  /-- `override` stands in front. -/
  isOverride : Bool := false
  /-- `readonly` stands in front. -/
  isReadonly : Bool := false
  /-- Some modifier stands behind the place of the first `static`. -/
  isModified : Bool := false

/-- Whether a method goes on here behind its key. -/
def atMethod : Reader Bool :=
  atAny [.openParen, .less]

/-- Whether a property goes on here behind its key; `lineEnds` tells whether the end of a line
ends it. -/
def atProperty (lineEnds : Bool) : Reader Bool := do
  if ← atAny [.bang, .colon, .assign, .closeBrace] then return true
  else if lineEnds then atStatementEnd
  else at? .semicolon

/-- Whether a key names the constructor. -/
def namesConstructor (isPrivate : Bool) (name : Option String) : Bool :=
  !isPrivate && name == some "constructor"

/-- The key of a member. -/
structure MemberKey where
  /-- The key. -/
  node : Node
  /-- The name that it spells. -/
  name : Option String
  /-- Whether it is a plain word. -/
  isWord : Bool
  /-- Whether it is private. -/
  isPrivate : Bool

/-- Takes an access modifier if one stands here.  The modifiers of type parameters are taken too,
but are none. -/
def accessModifier : Reader Bool := do
  let start ← position
  match ← modifier? ["public", "protected", "private", "in", "out"] with
  | none => return false
  | some word =>
    if word == "in" || word == "out" then
      noteAt start .badModifier
      return false
    else return true

/-- Reads a private name behind its mark. -/
def privateName : Reader Node := do
  let start ← position
  expect .hash
  if (← position) != (← behind) then fail .nameExpected
  let name ← anyName
  node start .privateName [name]

/-- Reads the key of a member. -/
def memberKey : Reader MemberKey := do
  if ← at? .hash then
    let start ← position
    let name ← privateName
    match name.parts with
    | [.mk (.identifier "constructor") _ _] => noteAt start .badClassMember
    | _ => pure ()
    return ⟨name, none, false, true⟩
  else
    let isWord := (← word?).isSome
    let (key, name) ← propertyKey
    return ⟨key, name, isWord, false⟩

/-- Reads a method behind its key. -/
def classMethod (modifiers : Modifiers) (kind : MethodKind) (isAsync isGenerator : Bool)
    (key : MemberKey) : Reader ClassMember := do
  let (parts, complete) ← methodRest kind isAsync isGenerator key.node.start
  let isAbstract := modifiers.isAbstract && !key.isPrivate
  if key.isPrivate && modifiers.hasAccess then noteAt modifiers.start .badModifier
  if isAbstract && complete then noteAt modifiers.start .badAbstractMember
  let member ← node modifiers.start .classMember (key.node :: parts)
  return ⟨member, false, isAbstract⟩

/-- Reads a property behind its key and the mark of an optional one. -/
def classProperty (modifiers : Modifiers) (optional : Bool) (key : MemberKey) :
    Reader ClassMember := do
  if namesConstructor key.isPrivate key.name then failAt key.node.start .badClassMember
  if key.isPrivate && (modifiers.isDeclared || modifiers.hasAccess) then
    noteAt key.node.start .badModifier
  unless optional do
    let _ ← accept .bang
  let typed ← typeGiven?
  let value ←
    inScope
      (fun scope => { scope with inClassField := true, hasNewTarget := true, inOperator := true })
      initialValue?
  unless ← acceptStatementEnd do note .statementEndExpected
  let isAbstract := modifiers.isAbstract && !key.isPrivate
  if isAbstract && !value.isEmpty then noteAt modifiers.start .badAbstractMember
  let member ← node modifiers.start .classMember (key.node :: typed ++ value)
  return ⟨member, false, isAbstract⟩

/-- Whether a parameter can declare a property: it binds a single name, or has a default. -/
def canDeclareProperty (parameter : Node) : Bool :=
  isSimpleParameter parameter || hasDefault parameter

/-- Whether a parameter declares a property: it then wraps the parameter proper. -/
def declaresProperty : Node → Bool
  | .mk _ _ [.mk .binding _ _] => true
  | .mk _ _ [.mk .defaultPattern _ _] => true
  | _ => false

/-- Reads a parameter of a constructor, which can declare a property. -/
def constructorParameter : Reader Node := do
  let start ← position
  let hasAccess ← accessModifier
  let overrides ← modifier? ["override"]
  let readonly ← modifier? ["readonly"]
  let parameter ← plainParameter
  if !hasAccess && overrides.isNone && readonly.isNone then return parameter
  else
    unless canDeclareProperty parameter do failAt parameter.start .badParameters
    node start parameter.form [parameter]

/-- Reads a constructor behind its key. -/
def constructor (modifiers : Modifiers) (key : MemberKey) : Reader ClassMember := do
  if modifiers.isOverride then noteAt modifiers.start .badModifier
  if ← at? .less then
    note .badType
    let _ ← typeParameters false
  expect .openParen
  let read ← inScope (parameterScope false false) (parametersWith constructorParameter)
  expect .closeParen
  if ← at? .colon then
    note .badType
    let _ ← typeGiven?
  let body ←
    inScope ownReceiver (functionBody false false false (read.all isSimpleParameter))
  if body.isNone then
    for parameter in read do
      if declaresProperty parameter then noteAt parameter.start .parameterProperty
      if hasDefault parameter then noteAt parameter.start .badParameters
  if modifiers.isStatic || modifiers.isAbstract then noteAt modifiers.start .badModifier
  let member ← node modifiers.start .classMember (key.node :: read ++ body.toList)
  return ⟨member, body.isSome, false⟩

/-- Reads a static block behind its keyword. -/
def staticBlock (start : Nat) : Reader ClassMember := do
  let body ← inScope (fun scope => { scope with inClassField := true, hasNewTarget := true }) block
  return ⟨← node start .classMember [body], false, false⟩

/-- Reads the modifiers that can repeat in front of a member. -/
def repeatedModifiers (modifiers : Modifiers) : Reader Modifiers :=
  repeating
    (fun (read : Modifiers) => do
      let start ← position
      if (← atWord "static") && (← nextIs .openBrace) then return .inr read
      else
        match ← modifier? ["abstract", "readonly", "override", "static"] with
        | none => return .inr read
        | some "abstract" =>
          if read.isAbstract || read.isOverride || read.isReadonly then
            noteAt start .badModifier
          return .inl { read with isAbstract := true, isModified := true }
        | some "override" =>
          if read.isOverride || read.isReadonly || read.isDeclared || !(← scope).hasParent then
            noteAt start .badModifier
          return .inl { read with isOverride := true, isModified := true }
        | some "readonly" =>
          if read.isReadonly then noteAt start .badModifier
          return .inl { read with isReadonly := true, isModified := true }
        | some _ =>
          if read.isOverride then noteAt start .badModifier
          return .inl { read with isStatic := true, isModified := true })
    modifiers

/-- Reads an index signature, which takes no modifiers but `static` and `readonly`. -/
def memberSignature? (modifiers : Modifiers) : Reader (Option Node) := do
  if modifiers.isAbstract || modifiers.isOverride || modifiers.hasAccess then return none
  else indexSignature?

/-- Reads a member whose modifiers are known. -/
def memberBehindModifiers (modifiers : Modifiers) : Reader ClassMember := do
  if modifiers.isStatic && (← at? .openBrace) then
    if modifiers.isDeclared || modifiers.hasAccess then note .badModifier
    staticBlock modifiers.start
  else
    match ← memberSignature? modifiers with
    | some signature => return ⟨signature, false, false⟩
    | none =>
      if ← accept .star then
        let key ← memberKey
        if modifiers.isReadonly || namesConstructor key.isPrivate key.name then
          noteAt modifiers.start .badClassMember
        classMethod modifiers .plain false true key
      else
        let key ← memberKey
        let optional ← accept .question
        if ← atMethod then
          if modifiers.isDeclared then noteAt modifiers.start .badModifier
          if modifiers.isReadonly then failAt modifiers.start .badModifier
          if namesConstructor key.isPrivate key.name then constructor modifiers key
          else classMethod modifiers .plain false false key
        else
          let accessor ← do
            if key.isWord && (key.name == some "get" || key.name == some "set") then
              let generatorBelow := (← onNewLine) && (← at? .star)
              pure (!(← atProperty false) && !generatorBelow)
            else pure false
          if !accessor && (← atProperty true) then classProperty modifiers optional key
          else if key.isWord && key.name == some "async" && !(← onNewLine) then
            let isGenerator ← accept .star
            let method ← memberKey
            if namesConstructor method.isPrivate method.name then
              failAt method.node.start .badClassMember
            if modifiers.isReadonly then failAt modifiers.start .badModifier
            let _ ← accept .question
            classMethod modifiers .plain true isGenerator method
          else if accessor then
            let kind := if key.name == some "get" then MethodKind.getter else .setter
            let method ← memberKey
            if modifiers.isReadonly || namesConstructor method.isPrivate method.name then
              noteAt key.node.start .badClassMember
            classMethod modifiers kind false false method
          else unexpected "* for generator, private key, identifier or async"

/-- Reads a member named like the modifier that was just taken, if one goes on here. -/
def memberNamed? (name : String) (lineEnds : Bool) (modifiers : Modifiers) :
    Reader (Option ClassMember) := do
  let cursor ← get
  let span : Span := ⟨cursor.previousStart, cursor.previousStop⟩
  let key : MemberKey := ⟨.mk (.identifier name) span [], some name, true, false⟩
  if ← atMethod then return some (← classMethod modifiers .plain false false key)
  else if (← atProperty lineEnds) || (← at? .question) then
    let optional ← accept .question
    return some (← classProperty modifiers optional key)
  else return none

/-- Reads a member of a class. -/
def classMember : Reader ClassMember := do
  let start ← position
  let declaredFirst ← acceptWord "declare"
  let hasAccess ← accessModifier
  let declaredSecond ← acceptWord "declare"
  let modifiers : Modifiers :=
    { start, isDeclared := declaredFirst || declaredSecond, hasAccess }
  let named ←
    if modifiers.isDeclared then memberNamed? "declare" true { start } else pure none
  match named with
  | some member => return member
  | none =>
    let isStatic ← acceptWord "static"
    let named ← if isStatic then memberNamed? "static" false modifiers else pure none
    match named with
    | some member => return member
    | none =>
      let modifiers ← repeatedModifiers { modifiers with isStatic }
      let accessor ← acceptWord "accessor"
      let named ← if accessor then memberNamed? "accessor" true modifiers else pure none
      match named with
      | some member => return member
      | none =>
        if (← atWord "static") && (← nextIs .openBrace) then
          if modifiers.isModified || modifiers.isStatic then noteAt start .badModifier
          advance
          staticBlock start
        else memberBehindModifiers modifiers

/-- Reads an entry of a list of parent types. -/
def heritageEntry : Reader Node := do
  let start ← position
  let name ← qualifiedName
  let arguments ← if ← at? .less then typeArguments else pure []
  node start .type (name :: arguments)

/-- Reads a list of parent types. -/
def heritageList : Reader (List Node) :=
  separated
    (do return (← at? .openBrace) || (← atAnyWord ["implements", "extends"]))
    heritageEntry

/-- Reads a parent class. -/
def parentClass : Reader (List Node) := do
  let parent ← descend .operand
  let arguments ← if ← at? .less then typeArguments else pure []
  return parent :: arguments

/-- The names that no class, interface or type can take. -/
def reservedTypeNames : List String :=
  ["any", "unknown", "never", "string", "number", "boolean", "symbol", "bigint", "object", "null",
   "undefined", "void", "intrinsic"]

/-- Reads the members of a class between braces. -/
def classBody : Reader (List ClassMember) := do
  expect .openBrace
  let members ←
    repeating
      (fun (read : List ClassMember) => do
        if (← at? .closeBrace) || (← atFinish) then return .inr read.reverse
        else if ← accept .semicolon then return .inl read
        else
          let member ← classMember
          if member.constructs && !(← scope).ambient && read.any (·.constructs) then
            noteAt member.node.start .secondConstructor
          return .inl (member :: read))
      []
  if ← atFinish then note (.expected "\x7d" "<eof>")
  else expect .closeBrace
  return members

/-- Reads a class from its keyword on. -/
def classFrom (start : Nat) (needsName isAbstract isExpression : Bool) : Reader Node := do
  expectWord "class"
  let name ← do
    if needsName then pure [← declaredName]
    else if (← atName) && !(← atWord "implements") then pure [← declaredName]
    else pure []
  for word in name do
    match word.form with
    | .identifier spelled =>
      if reservedTypeNames.contains spelled then noteAt word.start .reservedTypeName
    | _ => pure ()
  let generics ← typeParameters? true
  let parent ← do
    if ← acceptWord "extends" then
      let parent ← parentClass
      if ← accept .comma then
        let others ← heritageList
        for other in others do noteAt other.start .badHeritage
      pure parent
    else pure []
  if ← atWord "extends" then
    note .badHeritage
    advance
    let _ ← parentClass
  let interfaces ← if ← acceptWord "implements" then heritageList else pure []
  if ← atWord "implements" then
    note .badHeritage
    advance
    let _ ← heritageList
  if ← atWord "extends" then
    note .badHeritage
    advance
    let _ ← parentClass
  let members ←
    inScope (fun scope => { scope with hasParent := !parent.isEmpty }) classBody
  unless isAbstract do
    for member in members do
      if member.isAbstract then noteAt member.node.start .badAbstractMember
  node start (if isExpression then .classDefinition else .declaration)
    (name ++ generics ++ parent ++ interfaces ++ members.map (·.node))

end Source
end KeyedText

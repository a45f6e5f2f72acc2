import KeyedText.Source.Grammar.Pattern

/-!
# Parameters and templates

The parameters of functions, methods and signatures, and the chunks of templates, are shared by
expressions and types.
-/

namespace KeyedText
namespace Source

open Reader

/-- Reads a type behind a colon, if one stands here. -/
def typeGiven? : Reader (List Node) := do
  if ← accept .colon then return [← descend .type]
  else return []

/-- Whether a parameter is a name without a default value. -/
def isSimpleParameter : Node → Bool
  | .mk (.identifier _) _ _ => true
  | .mk .binding _ (.mk (.identifier _) _ _ :: _) => true
  | _ => false

/-- Whether a parameter is the receiver, which is no real parameter. -/
def isReceiverParameter : Node → Bool
  | .mk (.identifier name) _ _ => name == "this"
  | .mk .binding _ (.mk (.identifier name) _ _ :: _) => name == "this"
  | _ => false

/-- Whether a parameter has a default value. -/
def hasDefault (parameter : Node) : Bool :=
  parameter.form == .defaultPattern

/-- Reads a parameter that takes the rest, behind its dots. -/
def restParameter (start : Nat) : Reader Node := do
  let target ← descend .bindingTarget
  let value ← initialValue?
  unless value.isEmpty do noteAt target.start .restWithDefault
  let typed ← typeGiven?
  if ← at? .question then
    note .badParameters
    advance
  node start .restPattern (target :: value ++ typed)

/-- Reads a parameter that takes one value. -/
def plainParameter : Reader Node := do
  let start ← position
  let modified ← parameterModifier?
  let targetStart ← position
  let target ← bindingElement
  let optional ← at? .question
  if optional then
    if hasDefault target && !(← scope).ambient then fail .badParameters
    advance
  let typed ← typeGiven?
  if hasDefault target && !typed.isEmpty then noteAt targetStart .badParameters
  let value ← initialValue?
  if optional && !value.isEmpty then noteAt targetStart .badParameters
  if modified then noteAt start .parameterProperty
  if hasDefault target || !value.isEmpty then
    node targetStart .defaultPattern (target :: typed ++ value)
  else node targetStart .binding (target :: typed)

/-- Reads parameters up to the closing parenthesis; `plain` reads one that takes one value. -/
def parametersWith (plain : Reader Node) : Reader (List Node) :=
  repeating
    (fun (state : List Node × Option Nat) => do
      let (read, rested) := state
      if (← at? .closeParen) || (← atFinish) then return .inr read.reverse
      else
        match rested with
        | some start => noteAt start .restNotLast
        | none => pure ()
        let start ← position
        let isRest ← accept .ellipsis
        let parameter ← if isRest then restParameter start else plain
        unless ← at? .closeParen do
          expect .comma
          if isRest && (← at? .closeParen) then note .restNotLast
        return .inl (parameter :: read, if isRest then some start else none))
    ([], none)

/-- Reads the parameters of a function up to the closing parenthesis. -/
def parameters : Reader (List Node) :=
  parametersWith plainParameter

/-- Reads the parameters of a signature and the closing parenthesis. -/
def signatureParameters : Reader (List Node) := do
  let read ← parameters
  match read.find? hasDefault with
  | some _ => unexpected "a parameter without a default value"
  | none =>
    expect .closeParen
    return read

/-! ## Templates -/

/-- Reads a chunk of a template from behind the current mark: its value, and whether it is the
last one. -/
def templateChunk (tagged : Bool) : Reader (Option String × Bool) := do
  let cursor ← get
  let scan := scanChunk 0 [] none cursor.stop cursor.rest
  match scan.last, scan.malformed with
  | none, _ => throw ⟨cursor.start, .unterminatedTemplate⟩
  | some last, malformed =>
    match malformed with
    | some fault => unless tagged do throw fault
    | none => pure ()
    set { cursor with rest := scan.rest, stop := scan.stop }
    advance
    return (if malformed.isSome then none else textOfCodes scan.codes, last)

/-- Reads a template: the values of its chunks and what is interpolated between them. -/
def templateParts (tagged : Bool) (inner : Reader Node) :
    Reader (List (Option String) × List Node) := do
  require .backquote
  repeating
    (fun (state : List (Option String) × List Node) => do
      let (chunks, inners) := state
      let (chunk, last) ← templateChunk tagged
      let chunks := chunk :: chunks
      if last then return .inr (chunks.reverse, inners.reverse)
      else
        let interpolated ←
          inScope (fun scope => { scope with inOperator := true, colonAhead := false }) inner
        require .closeBrace
        return .inl (chunks, interpolated :: inners))
    ([], [])

end Source
end KeyedText

/-!
# Arguments

The arguments of a command are options, which start with dashes, and operands.  An option may
take a value, from the same argument or from the next one.  A value counts once the option is
settled, that is when another option or operand follows or the arguments end.
-/

namespace KeyedText
namespace Command

/-- What an argument can give. -/
inductive Slot where
  /-- The file to convert. -/
  | file
  /-- Whether the file is changed. -/
  | write
  /-- Whether changed lines are shown. -/
  | print
  /-- Whether keys are listed. -/
  | report
  /-- Whether everything that happens is told. -/
  | verbose
  /-- How many texts are ranked. -/
  | top
  /-- The folder to survey. -/
  | folder
  /-- A request for help. -/
  | help
  /-- A request for the version. -/
  | version
deriving DecidableEq, Repr

/-- The long name of an option. -/
def Slot.long : Slot → String
  | file => "file"
  | write => "write"
  | print => "print"
  | report => "report"
  | verbose => "verbose"
  | top => "top"
  | folder => ""
  | help => "help"
  | version => "version"

/-- The letter of an option. -/
def Slot.letter? : Slot → Option Char
  | file => some 'f'
  | verbose => some 'v'
  | help => some 'h'
  | version => some 'V'
  | _ => none

/-- Whether an option takes a value. -/
def Slot.takesValue : Slot → Bool
  | file | top | folder => true
  | _ => false

/-- Why arguments give no order. -/
inductive Usage where
  /-- An argument is not known. -/
  | unknownArgument
  /-- A value is missing or empty. -/
  | invalidValue
  /-- A value is not one of its kind. -/
  | valueValidation
  /-- An option that takes none has a value. -/
  | tooManyValues
  /-- Arguments exclude one another. -/
  | argumentConflict
  /-- There is no command of the name. -/
  | invalidSubcommand
  /-- Help is wanted. -/
  | displayHelp
  /-- The version is wanted. -/
  | displayVersion
deriving DecidableEq, Repr

/-- The arguments that a command knows. -/
structure Form where
  /-- The options. -/
  options : List Slot
  /-- What an operand gives. -/
  operand : Option Slot
  /-- The names of further commands. -/
  commands : List String
deriving DecidableEq, Repr

/-- How far arguments have been read. -/
structure Progress where
  /-- What was given, with its value. -/
  given : List (Slot × String)
  /-- An option or operand that is not settled yet, with its value. -/
  pending : Option (Slot × Option String)
  /-- Whether any option or operand was recognised. -/
  recognised : Bool
  /-- Whether only operands can follow. -/
  behindDashes : Bool
  /-- Whether there was an operand. -/
  hasOperand : Bool
deriving DecidableEq, Repr

/-- Nothing has been read. -/
def Progress.start : Progress :=
  ⟨[], none, false, false, false⟩

/-- The whole number below the bound of a machine word that a text spells, with or without a plus
sign. -/
def wholeNumber? (text : String) : Option Nat :=
  let digits := match text.toList with
    | '+' :: rest => rest
    | characters => characters
  if digits.isEmpty || !digits.all fun digit => '0' ≤ digit && digit ≤ '9' then none
  else
    let value := digits.foldl (fun sum digit => sum * 10 + (digit.toNat - '0'.toNat)) 0
    if value < Nat.pow 2 64 then some value else none

/-- Whether a slot is given already. -/
def Progress.has (progress : Progress) (slot : Slot) : Bool :=
  progress.given.any fun entry => entry.1 == slot

/-- Enters what an argument gives. -/
def Progress.enter (progress : Progress) (slot : Slot) (value : String) :
    Except Usage Progress := do
  if slot == .help then throw .displayHelp
  if slot == .version then throw .displayVersion
  if progress.has slot then throw .argumentConflict
  if (slot == .file || slot == .folder) && value.isEmpty then throw .invalidValue
  if slot == .top && (wholeNumber? value).isNone then throw .valueValidation
  return { progress with given := progress.given ++ [(slot, value)] }

/-- Settles what is pending. -/
def Progress.settle (progress : Progress) : Except Usage Progress :=
  match progress.pending with
  | none => .ok progress
  | some (_, none) => .error .invalidValue
  | some (slot, some value) => { progress with pending := none }.enter slot value

/-- Goes on behind an option, which may have a value in the same argument. -/
def Progress.option (progress : Progress) (slot : Slot) (value : Option String) :
    Except Usage Progress := do
  let progress := { progress with recognised := true }
  if slot.takesValue then
    match value with
    | some text => (← progress.settle).enter slot text
    | none => return { ← progress.settle with pending := some (slot, none) }
  else if value.isSome then throw .tooManyValues
  else (← progress.settle).enter slot ""

/-- Goes on behind the letters of several options; the last one may take what is left as its
value. -/
def Form.letters (form : Form) (progress : Progress) : List Char → Except Usage Progress
  | [] => .ok progress
  | letter :: rest =>
    match form.options.find? fun slot => slot.letter? == some letter with
    | none => .error .unknownArgument
    | some slot =>
      if slot.takesValue then
        let value := match rest with
          | [] => none
          | '=' :: text => some text
          | text => some text
        progress.option slot (value.map String.ofList)
      else do form.letters (← progress.option slot none) rest

/-- Goes on behind the long name of an option. -/
def Form.long (form : Form) (progress : Progress) (text : List Char) : Except Usage Progress :=
  let name := String.ofList (text.takeWhile (· != '='))
  let value := match text.dropWhile (· != '=') with
    | [] => none
    | _ :: value => some (String.ofList value)
  match form.options.find? fun slot => slot.long == name with
  | none => .error .unknownArgument
  | some slot => progress.option slot value

/-- Why an operand cannot stand where it stands. -/
def Form.refusal (form : Form) (progress : Progress) (text : String) : Usage :=
  if form.commands.isEmpty then .unknownArgument
  else if progress.recognised then .argumentConflict
  else if progress.behindDashes && form.commands.contains text then .unknownArgument
  else .invalidSubcommand

/-- Goes on behind an operand. -/
def Form.takeOperand (form : Form) (progress : Progress) (text : String) :
    Except Usage Progress :=
  match form.operand with
  | some slot =>
    if progress.hasOperand then .error (form.refusal progress text)
    else do
      return { ← progress.settle with
        pending := some (slot, some text), recognised := true, hasOperand := true }
  | none => .error (form.refusal progress text)

/-- Whether an option waits for its value. -/
def Progress.waits (progress : Progress) : Bool :=
  !progress.behindDashes && progress.pending.any fun entry => entry.2.isNone

/-- Goes on behind an argument. -/
def Form.step (form : Form) (progress : Progress) (text : String) : Except Usage Progress :=
  if progress.behindDashes then form.takeOperand progress text
  else
    match text.toList with
    | ['-', '-'] => .ok { progress with behindDashes := true }
    | '-' :: '-' :: rest => form.long progress rest
    | '-' :: letter :: rest => form.letters progress (letter :: rest)
    | _ =>
      match progress.pending with
      | some (slot, none) => .ok { progress with pending := some (slot, some text) }
      | _ => form.takeOperand progress text

/-- What arguments give: slots with their values, or the name of a further command with the
arguments behind it. -/
inductive Reading where
  | given (slots : List (Slot × String))
  | command (name : String) (rest : List String)
deriving DecidableEq, Repr

/-- Reads arguments. -/
def Form.readFrom (form : Form) (progress : Progress) : List String → Except Usage Reading
  | [] => do return .given (← progress.settle).given
  | text :: rest =>
    let isCommand := form.commands.contains text && !progress.recognised
      && !progress.behindDashes && !progress.waits
    if isCommand then .ok (.command text rest)
    else do form.readFrom (← form.step progress text) rest

/-- Reads all arguments. -/
def Form.read (form : Form) (arguments : List String) : Except Usage Reading :=
  form.readFrom .start arguments

end Command
end KeyedText

import KeyedText.Files.Host
import KeyedText.Json.Fault
import KeyedText.Keying.Conversion
import KeyedText.Settings.Check
import KeyedText.Text.Quoted

/-!
# Failures of runs

A run can fail for each of these causes, and for no other.
-/

namespace KeyedText
namespace Run

/-- Why a run fails. -/
inductive Failure where
  /-- There is no file to convert at the path. -/
  | noFile (path : String)
  /-- There is no folder to survey at the path. -/
  | noFolder (path : Path)
  /-- The settings cannot be read. -/
  | settingsUnread (refusal : Refusal)
  /-- The file at the path holds no settings. -/
  | settingsMalformed (path : Path) (fault : Json.Fault)
  /-- The settings make no sense. -/
  | settingsFaulty (fault : Settings.Fault)
  /-- There are settings already. -/
  | settingsPresent (name : String)
  /-- The settings cannot be written. -/
  | settingsUnwritten (refusal : Refusal)
  /-- A key table cannot be read. -/
  | tableUnread (path : Path) (refusal : Refusal)
  /-- The file at the path holds no key table. -/
  | tableMalformed (path : Path) (fault : Json.Fault)
  /-- A source text cannot be read. -/
  | sourceUnread (path : String) (refusal : Refusal)
  /-- The file at the path holds no source text. -/
  | sourceMalformed (path : String) (fault : Keying.SourceFault)
  /-- A log cannot be opened. -/
  | logUnopened (path : Path) (refusal : Refusal)
  /-- A line cannot be added to a log. -/
  | logUnwritten (path : Path) (refusal : Refusal)
  /-- A source text cannot be written. -/
  | sourceUnwritten (path : String) (refusal : Refusal)
deriving DecidableEq, Repr

/-- The wording of a failure without the causes behind it. -/
def Failure.headline : Failure → String
  | noFile path => "File not found: " ++ path
  | noFolder path => "Directory not found: " ++ String.ofList path
  | settingsUnread refusal => refusal.message
  | settingsMalformed path _ => "Failed to parse config file: " ++ Text.quotedPath path
  | settingsFaulty fault => fault.message
  | settingsPresent name => name ++ " already exists"
  | settingsUnwritten refusal => refusal.message
  | tableUnread path _ => "Failed to read file: " ++ String.ofList path
  | tableMalformed path _ => "Failed to parse key table: " ++ String.ofList path
  | sourceUnread path refusal => "failed to read " ++ path ++ ": " ++ refusal.message
  | sourceMalformed path fault =>
    "failed to parse " ++ path ++ ":" ++ toString fault.line ++ ": " ++ fault.cause.message
  | logUnopened path _ => "Failed to open " ++ String.ofList path
  | logUnwritten path _ => "Failed to write " ++ String.ofList path
  | sourceUnwritten path _ => "Failed to write " ++ path

/-- The wording of the cause behind a failure. -/
def Failure.cause? : Failure → Option String
  | settingsMalformed _ fault | tableMalformed _ fault => some fault.message
  | tableUnread _ refusal | sourceUnread _ refusal | logUnopened _ refusal
  | logUnwritten _ refusal | sourceUnwritten _ refusal => some refusal.message
  | _ => none

/-- The wording of a failure with the cause behind it. -/
def Failure.message (failure : Failure) : String :=
  match failure.cause? with
  | none => failure.headline
  | some cause => failure.headline ++ ": " ++ cause

end Run
end KeyedText

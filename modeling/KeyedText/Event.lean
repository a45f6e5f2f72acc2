/-!
# Events

What happens during a run is told in events.  An event has a level, a message, and named fields
in the order of their names.
-/

namespace KeyedText

/-- How much an event matters. -/
inductive Level where
  | debug
  | info
  | warn
deriving DecidableEq, Repr

/-- The name of a level. -/
def Level.name : Level → String
  | debug => "DEBUG"
  | info => "INFO"
  | warn => "WARN"

/-- The value of a field. -/
inductive FieldValue where
  | number (value : Nat)
  | text (value : String)
deriving DecidableEq, Repr

/-- An event. -/
structure Event where
  /-- How much it matters. -/
  level : Level
  /-- What happened. -/
  message : String
  /-- The particulars. -/
  fields : List (String × FieldValue)
deriving DecidableEq, Repr

end KeyedText

/-! # Log events

What an operation does on the way is told in events. An event has a level, a
message and named fields, and where events go is up to the monad that the
operation runs in. -/

namespace BpfDepot

/-- How much an event matters. -/
inductive Level where
  | debug
  | info
  deriving DecidableEq, Repr

/-- The name of a level. -/
def Level.name : Level → String
  | .debug => "debug"
  | .info => "info"

/-- The value of a field of an event. -/
inductive FieldValue where
  | number (n : Nat)
  | text (s : String)
  deriving DecidableEq, Repr

/-- One step of an operation, as it is logged. -/
structure Event where
  /-- How much it matters. -/
  level : Level
  /-- What happened. -/
  message : String
  /-- What it happened to. -/
  fields : List (String × FieldValue)
  deriving DecidableEq, Repr

/-- A monad in which events can be told. -/
class Log (m : Type → Type) where
  /-- Tells an event. -/
  emit : Event → m Unit

/-- Events gathered in the order in which they are told. -/
abbrev Logged := StateM (List Event)

instance : Log Logged := ⟨fun event => modify (· ++ [event])⟩

end BpfDepot

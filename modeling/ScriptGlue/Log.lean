/-!
# Diagnostics

Messages that a computation leaves behind. A `Logged` value is a result with the messages made on the
way to it, in order; a threshold decides later which of them are shown.
-/

namespace ScriptGlue

/-- The weight of a message. -/
inductive Level where
  /-- Of interest when the program is studied. -/
  | debug
  /-- Progress and members left out. -/
  | info
  /-- Something that is probably wrong. -/
  | warning
  deriving DecidableEq, Repr

namespace Level

/-- The number a threshold is compared with. -/
def severity : Level → Nat
  | debug => 10
  | info => 20
  | warning => 30

/-- The word that stands before a message. -/
def label : Level → String
  | debug => "DEBUG"
  | info => "INFO"
  | warning => "WARNING"

end Level

/-- A message of some weight. -/
structure Message where
  /-- How important it is. -/
  level : Level
  /-- What it says. -/
  text : String
  deriving DecidableEq, Repr

namespace Message

/-- The line that shows a message. -/
def line (m : Message) : String := "[" ++ m.level.label ++ "] " ++ m.text ++ "\n"

end Message

/-- The least severity that is shown, zero standing for the default. -/
def effectiveThreshold (threshold : Nat) : Nat :=
  if threshold = 0 then Level.warning.severity else threshold

/-- The lines of the messages that reach the threshold. -/
def showMessages (threshold : Nat) (log : List Message) : String :=
  String.join ((log.filter fun m => effectiveThreshold threshold ≤ m.level.severity).map Message.line)

/-- A result with the messages made on the way to it. -/
structure Logged (α : Type) where
  /-- The result. -/
  value : α
  /-- The messages, earliest first. -/
  log : List Message := []

namespace Logged

instance : Monad Logged where
  pure a := { value := a }
  bind x f := { value := (f x.value).value, log := x.log ++ (f x.value).log }

/-- A message and no result. -/
def say (level : Level) (text : String) : Logged Unit := { value := (), log := [⟨level, text⟩] }

end Logged

end ScriptGlue

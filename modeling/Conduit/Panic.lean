/-!
# Panics

An operation that is asked for something it cannot do at all gives up: it unwinds to the nearest
enclosing unit of work instead of answering. A panic carries a text, or a payload that is not one.
Code that may unwind answers with `Except Panic`.
-/

namespace Conduit

/-- What an unwinding operation carries. -/
inductive Panic where
  /-- A panic with a message. -/
  | text (message : String)
  /-- A panic whose payload is not a text. -/
  | other
  deriving DecidableEq, Inhabited

namespace Panic

/-- The message shown for a panic, also when its payload is no text. -/
def message : Panic → String
  | text message => message
  | other => "non-string panic payload"

/-- A counter of fixed width went past its end. -/
def counterOverflow : Panic :=
  text "attempt to add with overflow"

/-- A buffer was asked for that no address space can hold. -/
def capacityOverflow : Panic :=
  text "capacity overflow"

end Panic

end Conduit

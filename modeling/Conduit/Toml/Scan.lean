/-!
# Scanning a document

A scanner takes characters off the front of the rest of a document. Where a construct repeats, its
parts are taken one after another by `iterate`. Each part has at least one character, so there are no
more parts than characters.
-/

namespace Conduit.Toml

/-- Takes a construct off the front of the input, or fails. -/
abbrev Scanner (α : Type) := List Char → Option (α × List Char)

/-- What one step of a repeated construct comes to. -/
inductive Step (σ α : Type) where
  /-- A part was taken and more may follow. -/
  | next (state : σ) (rest : List Char)
  /-- The construct is complete. -/
  | done (result : α) (rest : List Char)
  /-- The input does not have the form of the construct. -/
  | fail

/-- Repeats a step until it is done. It may go on once for every character of `bound`. -/
def iterateWithin {σ α : Type} (step : σ → List Char → Step σ α) (bound : List Char) (state : σ)
    (input : List Char) : Option (α × List Char) :=
  match step state input with
  | .fail => none
  | .done result rest => some (result, rest)
  | .next state rest =>
    match bound with
    | [] => none
    | _ :: bound => iterateWithin step bound state rest

/-- Repeats a step until it is done. A step that goes on takes at least one character, so the input
itself bounds the number of steps. -/
def iterate {σ α : Type} (step : σ → List Char → Step σ α) (state : σ) (input : List Char) :
    Option (α × List Char) :=
  iterateWithin step input state input

/-- A space or a tab. -/
def isBlankChar (c : Char) : Bool :=
  c = ' ' || c = '\t'

/-- A character that may stand in a comment or between quotes: a tab, or no control character. -/
def isTextChar (c : Char) : Bool :=
  c = '\t' || (0x20 ≤ c.toNat && c.toNat ≠ 0x7f)

/-- A character that may stand in a key without quotes. -/
def isBareKeyChar (c : Char) : Bool :=
  c.isAlphanum || c = '_' || c = '-'

/-- Skips spaces and tabs. -/
def skipBlanks (input : List Char) : List Char :=
  input.dropWhile isBlankChar

/-- Takes the end of a line. -/
def newline? : List Char → Option (List Char)
  | '\n' :: rest => some rest
  | '\r' :: '\n' :: rest => some rest
  | _ => none

/-- Skips a comment, if one starts here, up to the end of its line. -/
def skipComment : List Char → List Char
  | '#' :: rest => rest.dropWhile isTextChar
  | input => input

/-- Takes what may follow a statement on its line: blanks and a comment. -/
def endLine? (input : List Char) : Option (List Char) :=
  match skipComment (skipBlanks input) with
  | [] => some []
  | rest => newline? rest

/-- Skips blanks, comments and line ends. A comment has to end with its line. -/
def skipLines (input : List Char) : Option (List Char) :=
  Prod.snd <$> iterate (fun () input ↦
    match skipBlanks input with
    | '#' :: rest =>
      match newline? (rest.dropWhile isTextChar) with
      | some rest => .next () rest
      | none => .fail
    | rest =>
      match newline? rest with
      | some rest => .next () rest
      | none => .done () rest) () input

/-- Takes one given character. -/
def expect? (c : Char) : List Char → Option (List Char)
  | [] => none
  | d :: rest => if c = d then some rest else none

end Conduit.Toml

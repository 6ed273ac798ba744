import Conduit.Toml.Scan

/-!
# TOML texts and keys

The four forms of a text (basic and literal, on one line or on several) and the keys, which are
texts on one line or bare words, joined by dots.
-/

namespace Conduit.Toml

/-- The value of a hexadecimal digit. -/
def hexDigit? (c : Char) : Option Nat :=
  if '0' ≤ c ∧ c ≤ '9' then some (c.toNat - '0'.toNat)
  else if 'a' ≤ c ∧ c ≤ 'f' then some (c.toNat - 'a'.toNat + 10)
  else if 'A' ≤ c ∧ c ≤ 'F' then some (c.toNat - 'A'.toNat + 10)
  else none

/-- The character with the code point that `width` hexadecimal digits spell. -/
def codePoint? (width : Nat) (input : List Char) : Option (Char × List Char) := do
  let digits := input.take width
  guard (digits.length = width)
  let n ← digits.foldlM (fun n c ↦ (16 * n + ·) <$> hexDigit? c) 0
  if h : n.isValidChar then
    return (Char.ofNatAux n h, input.drop width)
  else none

/-- The character that an escape stands for, after the backslash. -/
def escape? : Scanner Char
  | 'b' :: rest => some ('\x08', rest)
  | 't' :: rest => some ('\t', rest)
  | 'n' :: rest => some ('\n', rest)
  | 'f' :: rest => some ('\x0c', rest)
  | 'r' :: rest => some ('\r', rest)
  | '"' :: rest => some ('"', rest)
  | '\\' :: rest => some ('\\', rest)
  | 'u' :: rest => codePoint? 4 rest
  | 'U' :: rest => codePoint? 8 rest
  | _ => none

/-- A text on one line, after its opening quote; only basic texts have escapes. -/
def lineText? (quote : Char) (escapes : Bool) (input : List Char) :
    Option (String × List Char) :=
  iterate (fun taken input ↦
    match input with
    | [] => .fail
    | c :: rest =>
      if c = quote then .done (String.ofList taken.reverse) rest
      else if escapes ∧ c = '\\' then
        match escape? rest with
        | some (d, rest) => .next (d :: taken) rest
        | none => .fail
      else if isTextChar c then .next (c :: taken) rest
      else .fail) [] input

/-- Skips blanks and line ends. -/
def skipSpace (input : List Char) : List Char :=
  input.dropWhile fun c ↦ isBlankChar c || c = '\n' || c = '\r'

/-- The rest after a backslash at the end of a line: the line ends and blanks after it do not belong
to the text. -/
def continuation? (input : List Char) : Option (List Char) := do
  let rest ← newline? (skipBlanks input)
  Prod.snd <$> iterate (fun () input ↦
    match newline? (skipBlanks input) with
    | some rest => .next () rest
    | none => .done () (skipBlanks input)) () rest

/-- A text on several lines, after its three opening quotes. Up to two quotes may stand before the
three that close it, and line ends count as single line feeds. -/
def linesText? (quote : Char) (escapes : Bool) (input : List Char) :
    Option (String × List Char) :=
  let finish (taken : List Char) (quotes : Nat) :=
    String.ofList (List.replicate (quotes - 3) quote ++ taken).reverse
  iterate (fun taken input ↦
    match input with
    | [] => .fail
    | c :: rest =>
      if c = quote then
        let quotes := min 5 (input.takeWhile (· = quote)).length
        if 3 ≤ quotes then .done (finish taken quotes) (input.drop quotes)
        else .next (c :: taken) rest
      else if escapes ∧ c = '\\' then
        match continuation? rest with
        | some rest => .next taken rest
        | none =>
          match escape? rest with
          | some (d, rest) => .next (d :: taken) rest
          | none => .fail
      else if isTextChar c then .next (c :: taken) rest
      else
        match newline? input with
        | some rest => .next ('\n' :: taken) rest
        | none => .fail) [] ((newline? input).getD input)

/-- A text in any of the four forms. -/
def text? : Scanner String
  | '"' :: '"' :: '"' :: rest => linesText? '"' true rest
  | '\'' :: '\'' :: '\'' :: rest => linesText? '\'' false rest
  | '"' :: rest => lineText? '"' true rest
  | '\'' :: rest => lineText? '\'' false rest
  | _ => none

/-- One part of a key. -/
def keyPart? : Scanner String
  | '"' :: rest => lineText? '"' true rest
  | '\'' :: rest => lineText? '\'' false rest
  | input =>
    let word := input.takeWhile isBareKeyChar
    if word.isEmpty then none else some (String.ofList word, input.drop word.length)

/-- The number of levels, one more than the deepest nesting that a document may have. -/
def depthLimit : Nat := 80

/-- A key: parts joined by dots, with blanks around each. -/
def key? (input : List Char) : Option (List String × List Char) := do
  let (parts, rest) ← iterate (fun parts input ↦
    match keyPart? (skipBlanks input) with
    | none => .fail
    | some (part, rest) =>
      match skipBlanks rest with
      | '.' :: rest => .next (part :: parts) rest
      | rest => .done (part :: parts).reverse rest) [] input
  guard (parts.length < depthLimit)
  return (parts, rest)

end Conduit.Toml

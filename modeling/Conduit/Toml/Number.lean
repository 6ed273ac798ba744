import Conduit.Toml.Text
import Conduit.Toml.Value

/-!
# TOML numbers and dates

Values without quotes or brackets: numbers, dates, and the two truth values. Such a value is a word
that ends before a blank, a line end, a comment, a comma or a closing bracket; only between a date
and a time may a blank stand.
-/

namespace Conduit.Toml

/-- Whether a word ends before this character. -/
def endsWord (c : Char) : Bool :=
  [' ', '\t', '\n', '\r', ',', ']', '}', '#'].contains c

/-- The digits of a number, where an underscore may stand between two digits. -/
def digits? (isDigit : Char → Bool) : List Char → Option (List Char)
  | [] => none
  | [c] => if isDigit c then some [c] else none
  | c :: '_' :: rest => if isDigit c then (c :: ·) <$> digits? isDigit rest else none
  | c :: rest => if isDigit c then (c :: ·) <$> digits? isDigit rest else none

/-- The number that digits spell. -/
def ofDigits (base : Nat) (digits : List Char) : Nat :=
  digits.foldl (fun n c ↦ base * n + (hexDigit? c).getD 0) 0

/-- Splits a sign off a word; the flag says that it is a minus. -/
def splitSign : List Char → Bool × List Char
  | '+' :: rest => (false, rest)
  | '-' :: rest => (true, rest)
  | word => (false, word)

/-- The digits of a decimal number: no leading zero, except for zero itself. -/
def decimal? (word : List Char) : Option (List Char) := do
  let digits ← digits? Char.isDigit word
  guard (digits.length = 1 ∨ digits.head? ≠ some '0')
  return digits

/-- An integer in one of the four bases. Only decimal ones have a sign, and all fit 64 bits. -/
def integer? (word : List Char) : Option Int := do
  let n ← match word with
    | '0' :: 'x' :: rest => (fun ds ↦ (ofDigits 16 ds : Int)) <$> digits? (hexDigit? · |>.isSome) rest
    | '0' :: 'o' :: rest =>
      (fun ds ↦ (ofDigits 8 ds : Int)) <$> digits? (fun c ↦ '0' ≤ c && c ≤ '7') rest
    | '0' :: 'b' :: rest =>
      (fun ds ↦ (ofDigits 2 ds : Int)) <$> digits? (fun c ↦ c = '0' || c = '1') rest
    | word =>
      let (minus, word) := splitSign word
      (fun ds ↦ if minus then -(ofDigits 10 ds : Int) else ofDigits 10 ds) <$> decimal? word
  guard (-Nat.pow 2 63 ≤ n ∧ n < Nat.pow 2 63)
  return n

/-- Whether a decimal number rounds to infinity: it is at least halfway between the largest finite
double and the next power of two. -/
def roundsToInfinity (digits : List Char) (exponent : Int) : Bool :=
  let digits := digits.dropWhile (· = '0')
  let magnitude := digits.length + exponent
  if digits.isEmpty ∨ magnitude < 300 then false
  else if 400 < magnitude then true
  else
    let n := ofDigits 10 digits
    let bound := Nat.pow 2 1024 - Nat.pow 2 970
    if 0 ≤ exponent then bound ≤ n * Nat.pow 10 exponent.toNat
    else bound * Nat.pow 10 (-exponent).toNat ≤ n

/-- Whether the word is a number with a fraction, an exponent or both. Positive numbers have to be
finite. -/
def isFloat (word : List Char) : Bool :=
  let (minus, body) := splitSign word
  if body = ['i', 'n', 'f'] ∨ body = ['n', 'a', 'n'] then true
  else
    let isMark (c : Char) := c = 'e' || c = 'E'
    let mantissa := body.takeWhile (!isMark ·)
    let whole := mantissa.takeWhile (· ≠ '.')
    let fraction? : Option (List Char) := match mantissa.drop whole.length with
      | [] => some []
      | _ :: rest => digits? Char.isDigit rest
    let exponent? : Option Int := match body.drop mantissa.length with
      | [] => some 0
      | _ :: rest =>
        let (minus, rest) := splitSign rest
        (fun ds ↦ if minus then -(ofDigits 10 ds : Int) else ofDigits 10 ds) <$>
          digits? Char.isDigit rest
    match decimal? whole, fraction?, exponent? with
    | some ds, some fs, some e =>
      whole.length < body.length && (minus || !roundsToInfinity (ds ++ fs) (e - fs.length))
    | _, _, _ => false

/-- The number that exactly `width` decimal digits spell, between two bounds. -/
def field? (width low high : Nat) (input : List Char) : Option (Nat × List Char) := do
  let digits := input.take width
  guard (digits.length = width ∧ digits.all Char.isDigit)
  let n := ofDigits 10 digits
  guard (low ≤ n ∧ n ≤ high)
  return (n, input.drop width)

/-- The number of days of a month. -/
def daysIn (year month : Nat) : Nat :=
  if month = 2 then
    if year % 4 = 0 ∧ (year % 100 ≠ 0 ∨ year % 400 = 0) then 29 else 28
  else if month = 4 ∨ month = 6 ∨ month = 9 ∨ month = 11 then 30
  else 31

/-- Takes a date: year, month and day, joined by hyphens. -/
def date? (input : List Char) : Option (List Char) := do
  let (year, rest) ← field? 4 0 9999 input
  let (month, rest) ← field? 2 1 12 (← expect? '-' rest)
  let (_, rest) ← field? 2 1 (daysIn year month) (← expect? '-' rest)
  return rest

/-- Takes a time: hour, minute and second, joined by colons, with an optional fraction. -/
def time? (input : List Char) : Option (List Char) := do
  let (_, rest) ← field? 2 0 23 input
  let (_, rest) ← field? 2 0 59 (← expect? ':' rest)
  let (_, rest) ← field? 2 0 60 (← expect? ':' rest)
  match rest with
  | '.' :: fraction =>
    guard ((fraction.head?.map Char.isDigit).getD false)
    return fraction.dropWhile Char.isDigit
  | rest => return rest

/-- Whether the rest of a word is an offset from universal time, or nothing. -/
def isOffset : List Char → Bool
  | [] => true
  | ['Z'] | ['z'] => true
  | sign :: rest =>
    (sign = '+' || sign = '-') && (do
      let (_, rest) ← field? 2 0 23 rest
      let (_, rest) ← field? 2 0 59 (← expect? ':' rest)
      guard rest.isEmpty).isSome

/-- Whether the word is a date, a time, or a date and a time with an optional offset. -/
def isDatetime (word : List Char) : Bool :=
  match date? word with
  | some [] => true
  | some (mark :: rest) =>
    (mark = 'T' || mark = 't' || mark = ' ') && ((time? rest).map isOffset).getD false
  | none => time? word = some []

/-- The length of the word at the front of the input. A date followed by a blank and a digit goes
on with a time. -/
def wordLength (input : List Char) : Nat :=
  let word := input.takeWhile (!endsWord ·)
  match date? word, input.drop word.length with
  | some [], ' ' :: rest =>
    if (rest.head?.map Char.isDigit).getD false then
      word.length + 1 + (rest.takeWhile (!endsWord ·)).length
    else word.length
  | _, _ => word.length

/-- The value that a word stands for. -/
def ofWord? (word : List Char) : Option Value :=
  if word = ['t', 'r', 'u', 'e'] then some (.boolean true)
  else if word = ['f', 'a', 'l', 's', 'e'] then some (.boolean false)
  else if isDatetime word then some (.datetime (String.ofList word))
  else if isFloat word then some (.float (String.ofList word))
  else .integer <$> integer? word

/-- Takes a value without quotes or brackets. -/
def word? (input : List Char) : Option (Value × List Char) := do
  let length := wordLength input
  return (← ofWord? (input.take length), input.drop length)

end Conduit.Toml

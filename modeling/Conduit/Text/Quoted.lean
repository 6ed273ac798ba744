import Conduit.Text.Unprintable
import Conduit.Text.Extending

/-!
# Quoted text

The quoted form of a text: between double quotes, with the characters escaped that would end the
quotation, break the line or leave no mark of their own on a page.
-/

namespace Conduit.Text

/-- Whether a character is written as itself when no short escape applies. -/
def isPlain (c : Char) : Bool :=
  if c.toNat < 127 then 32 ≤ c.toNat else !extending.holds c && !unprintable.holds c

/-- The digits of a number in base sixteen, in lower case and without leading zeros. -/
def hexDigits (n : Nat) : List Char :=
  Nat.toDigits 16 n

/-- The quoted form of one character. -/
def escape (c : Char) : List Char :=
  match c with
  | '\x00' => ['\\', '0']
  | '\t' => ['\\', 't']
  | '\r' => ['\\', 'r']
  | '\n' => ['\\', 'n']
  | '"' => ['\\', '"']
  | '\\' => ['\\', '\\']
  | c => if isPlain c then [c] else ['\\', 'u', '{'] ++ hexDigits c.toNat ++ ['}']

/-- The text between double quotes, each character in its quoted form. -/
def quote (text : String) : String :=
  String.ofList ('"' :: text.toList.flatMap escape ++ ['"'])

end Conduit.Text

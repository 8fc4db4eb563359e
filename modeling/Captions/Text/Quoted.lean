import Captions.Text.Invisible

/-!
# Quoted text

A text between double quotes, with everything that would not show written as an escape. It is how a
refused locale tag is shown in a message.
-/

namespace Captions.Text

/-- The digits of `n` to base 16, in lower case and without padding. -/
def hexDigits (n : Nat) : List Char := Nat.toDigits 16 n

/-- How `c` is written between double quotes: the quote and the backslash behind a backslash, NUL,
tab and the line ends by a letter, every other invisible character by its code point in braces. -/
def quotedChar (c : Char) : List Char :=
  if c = '"' || c = '\\' then ['\\', c]
  else if c = '\x00' then ['\\', '0']
  else if c = '\t' then ['\\', 't']
  else if c = '\n' then ['\\', 'n']
  else if c = '\r' then ['\\', 'r']
  else if isInvisible c then ['\\', 'u', '{'] ++ hexDigits c.toNat ++ ['}']
  else [c]

/-- `text` between double quotes. -/
def quoted (text : String) : String :=
  String.ofList (['"'] ++ text.toList.flatMap quotedChar ++ ['"'])

end Captions.Text

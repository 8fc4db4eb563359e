import Captions.ConfigFile.Reader
import Captions.Text.Scalar

/-!
# Keys and texts of a TOML document

The four forms of a text: between quotes or apostrophes, with or without escapes, on one line or
over several; and the keys, which may be bare or one of the two forms on one line. The rules are
those of TOML 1.0.
-/

namespace Captions.ConfigFile

open Reader

/-! ## Characters -/

/-- A blank within a line. -/
def isGap (c : Char) : Bool := c = ' ' || c = '\t'

/-- What may stand in a comment or between apostrophes: everything but the ASCII controls, of which
only the tab is allowed. -/
def isVisible (c : Char) : Bool := c = '\t' || (0x20 ≤ c.toNat && c.toNat ≠ 0x7F)

/-- What may stand for itself between quotes. -/
def isBasic (c : Char) : Bool := isVisible c && c ≠ '"' && c ≠ '\\'

/-- What may stand between apostrophes. -/
def isLiteral (c : Char) : Bool := isVisible c && c ≠ '\''

/-- What a bare key is made of. -/
def isBareKeyChar (c : Char) : Bool := c.isAlphanum || c = '-' || c = '_'

/-- The blanks at this place. -/
def gap : Reader Unit := do
  let _ ← run isGap

/-- A line end, LF or CR LF. -/
def newline : Reader Unit := exactly ['\n'] <|> exactly ['\r', '\n']

/-! ## Escapes -/

/-- The value of a digit to base 16. -/
def hexValue (c : Char) : Nat :=
  if c.isDigit then c.toNat - '0'.toNat
  else if c.isUpper then c.toNat - 'A'.toNat + 10
  else c.toNat - 'a'.toNat + 10

/-- A digit to base 16, of either case. -/
def isHexDigit (c : Char) : Bool :=
  c.isDigit || ('a' ≤ c && c ≤ 'f') || ('A' ≤ c && c ≤ 'F')

/-- The character whose code point is given by `count` digits to base 16. -/
def codePoint (count : Nat) : Reader Char := do
  let digits ← (List.range count).mapM fun _ => satisfy isHexDigit
  match Text.scalar? (digits.foldl (fun n c => 16 * n + hexValue c) 0) with
  | some c => return c
  | none => failure

/-- The character that an escape stands for. -/
def escape : Reader Char := do
  exactly ['\\']
  match ← satisfy fun _ => true with
  | 'b' => return '\x08'
  | 't' => return '\t'
  | 'n' => return '\n'
  | 'f' => return '\x0c'
  | 'r' => return '\r'
  | '"' => return '"'
  | '\\' => return '\\'
  | 'u' => codePoint 4
  | 'U' => codePoint 8
  | _ => failure

/-! ## Texts on one line -/

/-- A text between quotes, on one line. -/
def basicText : Reader (List Char) :=
  exactly ['"'] *> many (escape <|> satisfy isBasic) <* exactly ['"']

/-- A text between apostrophes, on one line: every character stands for itself. -/
def literalText : Reader (List Char) := exactly ['\''] *> run isLiteral <* exactly ['\'']

/-! ## Texts over several lines -/

/-- A run of `mark` that is too short to close a text over several lines, and so belongs to it. -/
def innerMarks (mark : Char) : Reader (List Char) := do
  let marks ← run₁ (· = mark)
  if marks.length < 3 then return marks else failure

/-- The run of `mark` that closes a text over several lines. Its last three characters close; up to
two before them still belong to the text. -/
def closingMarks (mark : Char) : Reader (List Char) := do
  let marks ← run (· = mark)
  if 3 ≤ marks.length ∧ marks.length ≤ 5 then return marks.drop 3 else failure

/-- A line end within a text, which counts as LF. -/
def innerNewline : Reader (List Char) := newline *> pure ['\n']

/-- A backslash at the end of a line takes away the line end and all blanks and line ends that
follow. -/
def joinedLines : Reader (List Char) := do
  exactly ['\\']
  gap
  newline
  let _ ← many (newline <|> (do let _ ← run₁ isGap))
  return []

/-- One character of a class, as a text. -/
def one (reader : Reader Char) : Reader (List Char) := do return [← reader]

/-- A text over several lines between three marks each, made of `stretch`es. A line end right after
the opening marks does not count. -/
def longText (mark : Char) (stretch : Reader (List Char)) : Reader (List Char) := do
  exactly [mark, mark, mark]
  let _ ← optional newline
  let stretches ← many (innerMarks mark <|> innerNewline <|> stretch)
  let last ← closingMarks mark
  return stretches.flatten ++ last

/-- A text over several lines between quotes. -/
def longBasicText : Reader (List Char) :=
  longText '"' (joinedLines <|> one escape <|> one (satisfy isBasic))

/-- A text over several lines between apostrophes. -/
def longLiteralText : Reader (List Char) := longText '\'' (one (satisfy isLiteral))

/-- A text of any form. -/
def anyText : Reader String := do
  return String.ofList (← longBasicText <|> longLiteralText <|> basicText <|> literalText)

/-! ## Keys -/

/-- A key without dots. -/
def simpleKey : Reader String := do
  return String.ofList (← run₁ isBareKeyChar <|> basicText <|> literalText)

/-- A key with its parts between the dots. -/
def key : Reader (List String) := do
  let first ← simpleKey
  let others ← many (gap *> exactly ['.'] *> gap *> simpleKey)
  return first :: others

end Captions.ConfigFile

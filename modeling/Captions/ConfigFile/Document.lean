import Captions.ConfigFile.Number

/-!
# Statements of a TOML document

A document as a row of statements: headers, and keys with their values. Only the values that a
setting can have are read, texts, numbers, and tables of those; a document with any other value, or
with an array of tables, is refused here, since it could not be a configuration anyway.
-/

namespace Captions.ConfigFile

open Reader

/-- One statement. -/
inductive Statement where
  /-- The header of a section, with the parts of its name. -/
  | header (name : List String)
  /-- A key, with its parts, and its value. -/
  | entry (key : List String) (value : Scalar)
  /-- A key, with its parts, and the entries of a table within the line. -/
  | table (key : List String) (entries : List (List String × Scalar))

/-- The given character with blanks around it. -/
def spaced (c : Char) : Reader Unit := gap *> exactly [c] *> gap

/-- A key and its value. -/
def entry : Reader (List String × Scalar) := do
  let k ← key
  spaced '='
  return (k, ← scalar)

/-- The entries between braces. -/
def inlineTable : Reader (List (List String × Scalar)) :=
  exactly ['{'] *> gap *> separated (spaced ',') entry <* gap <* exactly ['}']

/-- A statement, without what stands around it on its lines. -/
def statement : Reader Statement :=
  (do return .header (← exactly ['['] *> gap *> key <* gap <* exactly [']'])) <|>
  (do
    let k ← key
    spaced '='
    return .table k (← inlineTable)) <|>
  (do
    let (k, value) ← entry
    return .entry k value)

/-- A comment up to the end of its line. -/
def comment : Reader Unit := do
  exactly ['#']
  let _ ← run isVisible

/-- A line: perhaps a statement, perhaps a comment. A statement with a long text goes on over the
lines of that text. -/
def line : Reader (Option Statement) := do
  gap
  let s ← optional statement
  gap
  let _ ← optional comment
  return s

/-- The statements of a document. A byte order mark at the start does not count. -/
def document : Reader (List Statement) := do
  let _ ← optional (exactly ['\ufeff'])
  let lines ← many (line <* newline)
  let last ← line
  return (lines ++ [last]).filterMap id

/-- The statements of a text, if it is a document. -/
def statements? (text : String) : Option (List Statement) := readAll? document text.toList

end Captions.ConfigFile

/-!
# Readers

A reader takes something off the front of a text, or refuses. `<|>` goes back to the start of the
text before it tries the second reader.
-/

namespace Captions.ConfigFile

/-- A reader of values of type `α`. -/
abbrev Reader (α : Type) : Type := StateT (List Char) Option α

namespace Reader

variable {α β : Type}

/-- One character of a class. -/
def satisfy (class? : Char → Bool) : Reader Char := fun
  | c :: cs => if class? c then some (c, cs) else none
  | [] => none

/-- The longest run of characters of a class, perhaps none. -/
def run (class? : Char → Bool) : Reader (List Char) := fun cs =>
  some (cs.takeWhile class?, cs.dropWhile class?)

/-- The longest run of characters of a class, at least one. -/
def run₁ (class? : Char → Bool) : Reader (List Char) := do
  let cs ← run class?
  if cs.isEmpty then failure
  return cs

/-- The given characters. -/
def exactly (word : List Char) : Reader Unit := fun cs =>
  if word.isPrefixOf cs then some ((), cs.drop word.length) else none

/-- Nothing, where nothing is left. -/
def atEnd : Reader Unit := fun cs => if cs.isEmpty then some ((), []) else none

/-- What `reader` finds again and again, and what is left where it refuses or takes nothing. -/
def manyFrom (reader : Reader α) (cs : List Char) : List α × List Char :=
  match reader cs with
  | some (a, rest) =>
    if rest.length < cs.length then
      let (as, rest) := manyFrom reader rest
      (a :: as, rest)
    else ([], cs)
  | none => ([], cs)
termination_by cs.length

/-- `reader` as often as it reads something. -/
def many (reader : Reader α) : Reader (List α) := fun cs => some (manyFrom reader cs)

/-- Members with separators between them, perhaps none. -/
def separated (separator : Reader β) (member : Reader α) : Reader (List α) :=
  (do
    let first ← member
    let others ← many (separator *> member)
    return first :: others) <|> pure []

/-- What `reader` makes of the whole of `cs`. -/
def readAll? (reader : Reader α) (cs : List Char) : Option α :=
  ((reader <* atEnd) cs).map (·.1)

end Reader

end Captions.ConfigFile

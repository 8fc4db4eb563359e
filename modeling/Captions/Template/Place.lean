import Captions.Template.Token
import Captions.Text.Size

/-!
# Places of slots

The slots of a text with the bytes that they take up in it.
-/

namespace Captions.Template

/-- A token and where it stands, in bytes from the start of the text. -/
structure Placed where
  start : Nat
  token : Token
deriving DecidableEq, Repr

namespace Placed

/-- Where the token ends. -/
def stop (p : Placed) : Nat := p.start + Text.byteSize p.token.source

/-- The token with `offset` more bytes of text before it. -/
def shift (offset : Nat) (p : Placed) : Placed := { p with start := offset + p.start }

end Placed

/-- The tokens with their places, the first of which stands at `offset`. -/
def placed (offset : Nat) : List Token → List Placed
  | [] => []
  | t :: ts => ⟨offset, t⟩ :: placed (offset + Text.byteSize t.source) ts

/-- The slots of a template with their places. -/
def slots (cs : List Char) : List Placed := (placed 0 (tokens cs)).filter (·.token.isSlot)

/-- The icon slots of a finished caption with their places. -/
def iconSlots (cs : List Char) : List Placed := (placed 0 (iconTokens cs)).filter (·.token.isSlot)

@[simp]
theorem byteSize_sources_cons (t : Token) (ts : List Token) :
    Text.byteSize (sources (t :: ts)) = Text.byteSize t.source + Text.byteSize (sources ts) := by
  simp [sources]

end Captions.Template

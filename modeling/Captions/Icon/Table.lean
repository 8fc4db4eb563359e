import Captions.Text.Scalar
import Captions.TextError
import Std.Data.TreeMap

/-!
# Glyph tables

Icon names and the glyphs that stand for them in the icon face.

Results:
* `get?_insert`: a table gives an icon that was put in, and every other icon as before.
-/

namespace Captions

/-- Icon names with their glyphs. -/
structure GlyphTable where
  glyphs : Std.TreeMap String Char

namespace GlyphTable

def empty : GlyphTable := ⟨∅⟩

/-- The table with `glyph` for `name`, in place of an earlier glyph if there is one. -/
def insert (table : GlyphTable) (name : String) (glyph : Char) : GlyphTable :=
  ⟨table.glyphs.insert name glyph⟩

def get? (table : GlyphTable) (name : String) : Option Char := table.glyphs[name]?

def size (table : GlyphTable) : Nat := table.glyphs.size

/-- The icon names in ascending order. -/
def names (table : GlyphTable) : List String := table.glyphs.keys

/-- The icons in ascending order of their names. -/
def toList (table : GlyphTable) : List (String × Char) := table.glyphs.toList

/-! ## Code points -/

/-- The table with the character of `codePoint` for `name`. -/
def insertCodePoint (table : GlyphTable) (name : String) (codePoint : UInt32) :
    Except TextError GlyphTable :=
  match Text.scalar? codePoint.toNat with
  | some glyph => .ok (table.insert name glyph)
  | none => .error (.invalidCodePoint name codePoint)

/-- The table with all `icons` put in, the later of two with one name last; the first one without
a character is refused. -/
def insertCodePoints (table : GlyphTable) (icons : List (String × UInt32)) :
    Except TextError GlyphTable :=
  icons.foldlM (fun table (name, codePoint) => table.insertCodePoint name codePoint) table

/-! ## The bundled table -/

/-- The icons that come with the bundled face. -/
def materialDesignIcons : List (String × Char) :=
  [("auto-fix", Char.ofNat 0xF0068), ("undo", Char.ofNat 0xF054C), ("redo", Char.ofNat 0xF044E),
    ("alert", Char.ofNat 0xF0026), ("close-octagon", Char.ofNat 0xF015C)]

/-- The table of the bundled face. -/
def materialDesign : GlyphTable :=
  materialDesignIcons.foldl (fun table (name, glyph) => table.insert name glyph) empty

/-! ## Looking up and listing -/

@[simp]
theorem get?_empty (name : String) : empty.get? name = none := by
  simp [empty, get?]

theorem get?_insert (table : GlyphTable) (name other : String) (glyph : Char) :
    (table.insert name glyph).get? other =
      if name = other then some glyph else table.get? other := by
  simp [insert, get?, Std.TreeMap.getElem?_insert]

end GlyphTable

end Captions

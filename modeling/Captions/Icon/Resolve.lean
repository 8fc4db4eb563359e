import Captions.Icon.Table
import Captions.Template.Token
import Captions.Traced

/-!
# Putting glyphs into a caption

Every icon slot of a caption whose icon is in the table becomes the glyph, and the place of the
glyph is noted so that it can be drawn in the icon face. A slot with an unknown icon stays as
written and is reported. With icons switched off the caption stays as it is.
-/

namespace Captions

/-- A glyph in a resolved caption. -/
structure Span where
  /-- Where the glyph starts, in bytes. -/
  start : Nat
  /-- Where it ends, in bytes. -/
  stop : Nat
  glyph : Char
  /-- The icon that the glyph stands for. -/
  name : String
  /-- The size of the glyph relative to the font around it. -/
  scale : Float32

/-- A caption ready to be shown. -/
structure Resolved where
  text : String
  /-- The glyphs, from left to right. -/
  spans : List Span
  /-- The names of the icons that were not found, from left to right. -/
  unresolved : List String

namespace Resolved

/-- A caption without glyphs. -/
def plain (text : String) : Resolved := { text, spans := [], unresolved := [] }

def hasGlyphs (r : Resolved) : Bool := !r.spans.isEmpty

end Resolved

/-- How icon slots are treated. -/
structure Icons where
  table : GlyphTable
  /-- The size of a glyph relative to the font around it. -/
  scale : Float32
  enabled : Bool

namespace Icons

/-- The usual size of a glyph, one and a half times that of the text. -/
def defaultScale : Float32 := 1.5

/-- Glyphs from `table` in the usual size. -/
def ofTable (table : GlyphTable) : Icons := { table, scale := defaultScale, enabled := true }

/-- Icons switched off, for want of a face to draw them in. -/
def disabled (table : GlyphTable) : Icons := { ofTable table with enabled := false }

def withScale (icons : Icons) (scale : Float32) : Icons := { icons with scale }

/-! ## Resolving -/

/-- The caption with one more token behind it. -/
def put (icons : Icons) (r : Resolved) (t : Template.Token) : Traced Resolved :=
  match t with
  | .icon chars =>
    let name := String.ofList chars
    match icons.table.get? name with
    | some glyph =>
      let text := r.text.push glyph
      let span :=
        { start := r.text.utf8ByteSize, stop := text.utf8ByteSize, glyph, name,
          scale := icons.scale }
      return { r with text, spans := r.spans ++ [span] }
    | none => do
      Traced.report (.unknownIcon name)
      return { r with
        text := r.text ++ String.ofList t.source
        unresolved := r.unresolved ++ [name] }
  | _ => return { r with text := r.text ++ String.ofList t.source }

/-- The caption with its icon slots resolved, from left to right; an unknown icon is reported where
it is met. -/
def resolve (icons : Icons) (caption : String) : Traced Resolved :=
  if icons.enabled then (Template.iconTokens caption.toList).foldlM icons.put (.plain "")
  else return .plain caption

end Icons

end Captions

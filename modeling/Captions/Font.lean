/-!
# Fonts and the icon face

A font selection, the face that holds the icon glyphs, and the host that provides the face or says
why it cannot.
-/

namespace Captions

/-! ## Fonts -/

inductive FontStyle where
  | plain
  | bold
  | italic
deriving DecidableEq, Repr, Inhabited

/-- A font selection; the size is in points. -/
structure Font where
  family : String
  style : FontStyle
  size : Float32

/-- The same family in another style and size. -/
def Font.derive (font : Font) (style : FontStyle) (size : Float32) : Font :=
  { font with style, size }

/-! ## The icon face -/

/-- The face that holds the icon glyphs, by the family under which the host knows it. -/
structure IconFace where
  family : String
deriving DecidableEq, Repr

/-- The family of the face that the bundled glyphs belong to. -/
def IconFace.materialDesignFamily : String := "Material Design Icons"

/-- The font for a text with glyphs: the icon face, plain, at `scale` times the size of `base`. -/
def IconFace.fontFor (face : IconFace) (base : Font) (scale : Float32) : Font :=
  { family := face.family, style := .plain, size := base.size * scale }

/-! ## The host -/

/-- Why a host has no icon face. -/
inductive FontError where
  /-- It does not offer one. -/
  | unavailable (reason : String)
  /-- It has one that cannot be read. -/
  | unreadable (reason : String)
deriving DecidableEq, Repr

def FontError.message : FontError → String
  | unavailable reason => "icon font unavailable: " ++ reason
  | unreadable reason => "failed to read icon font: " ++ reason

/-- The environment that draws text, as far as the icon face goes. -/
structure FontHost where
  /-- What comes of registering the icon face. -/
  register : Except FontError IconFace

/-- A host with a face of the given family. -/
def FontHost.offering (family : String) : FontHost := ⟨.ok ⟨family⟩⟩

/-- A host that comes without an icon face. -/
def FontHost.withoutFace : FontHost := ⟨.error (.unavailable "no icon face bundled with host")⟩

end Captions

import Captions.Text.Quoted

/-!
# What can be wrong with a text source

The faults that a locale tag, an icon definition or a bundle store can show, and their wording.
-/

namespace Captions

/-- A fault of a locale tag, of an icon or of a store. -/
inductive TextError where
  /-- The tag, blanks around it removed, names no locale. -/
  | invalidLocale (tag : String)
  /-- The icon's code point is not a Unicode scalar value. -/
  | invalidCodePoint (name : String) (codePoint : UInt32)
  /-- The store could not deliver the bundle of a locale. -/
  | store (baseName locale message : String)
deriving DecidableEq, Repr

namespace TextError

/-- A code point as `U+` and its digits to base 16, in upper case and without padding. -/
def codePointText (codePoint : UInt32) : String :=
  "U+" ++ String.ofList ((Text.hexDigits codePoint.toNat).map Char.toUpper)

/-- The wording of a fault. -/
def message : TextError → String
  | invalidLocale tag => "invalid locale: " ++ Text.quoted tag
  | invalidCodePoint name codePoint =>
    "icon '" ++ name ++ "' has invalid code point " ++ codePointText codePoint
  | store baseName locale message =>
    "catalog store failed for '" ++ baseName ++ "' (" ++ locale ++ "): " ++ message

end TextError

end Captions

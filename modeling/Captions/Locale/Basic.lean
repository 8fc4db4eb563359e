import Captions.Locale.Code
import Captions.Text.Blank
import Captions.TextError

/-!
# Locales

A locale is the root, a language, or a language in a region. A bundle is looked for along the chain
of a locale: first the locale itself, then its language, last the root.

Results:
* `chain_eq`: the chain of a locale is the locale followed by the chain of its parent.
-/

namespace Captions

/-- What a bundle is made for. -/
inductive Locale where
  /-- No language: the base bundle, at which every chain ends. -/
  | root
  | language (language : Language)
  | regional (language : Language) (region : Region)
deriving DecidableEq

namespace Locale

instance : Inhabited Locale := ⟨root⟩

/-! ## Reading a tag -/

/-- What may stand between language and region. -/
def isSeparator (c : Char) : Bool := c = '-' || c = '_'

/-- The locale named by `cs`: nothing, a language, or a language, one separator and a region. -/
def ofChars? (cs : List Char) : Option Locale :=
  if cs.isEmpty then some root
  else do
    let language ← Language.parse? (cs.takeWhile (!isSeparator ·))
    match cs.dropWhile (!isSeparator ·) with
    | [] => some (.language language)
    | _ :: region => (Region.parse? region).map (.regional language)

/-- The locale named by `tag`, whatever blanks stand around it. -/
def parse (tag : String) : Except TextError Locale :=
  let cs := Text.trim tag.toList
  match ofChars? cs with
  | some locale => .ok locale
  | none => .error (.invalidLocale (String.ofList cs))

/-- The locale of a language code and a region code. -/
def ofCodes (language : String) : (region : Option String) → Except TextError Locale
  | some region => parse (language ++ "-" ++ region)
  | none => parse language

/-! ## Parts and written forms -/

/-- The language in lower case; empty for the root. -/
def languageCode : Locale → String
  | root => ""
  | language l => l.code
  | regional l _ => l.code

/-- The region in upper case. -/
def regionCode : Locale → Option String
  | regional _ r => some r.code
  | _ => none

def isRoot : Locale → Bool
  | root => true
  | _ => false

/-- The language and the region with `separator` between them. -/
def write (separator : String) : Locale → String
  | root => ""
  | language l => l.code
  | regional l r => l.code ++ separator ++ r.code

/-- The tag of a locale, such as `en-US`; empty for the root. -/
def tag (l : Locale) : String := l.write "-"

/-- The form used at the end of a bundle's file name, such as `en_US`; empty for the root. -/
def suffix (l : Locale) : String := l.write "_"

instance : ToString Locale := ⟨tag⟩

/-! ## Order and chain -/

/-- By language, then by region, a language without region before its regions. -/
instance : Ord Locale where
  compare a b :=
    (compare a.languageCode b.languageCode).then (compare a.regionCode b.regionCode)

/-- The next less specific locale. -/
def parent? : Locale → Option Locale
  | root => none
  | language _ => some root
  | regional l _ => some (language l)

/-- The locales whose bundles are looked for, the most specific first. -/
def chain : Locale → List Locale
  | root => [root]
  | language l => [language l, root]
  | regional l r => [regional l r, language l, root]

theorem chain_eq (l : Locale) : l.chain = l :: (l.parent?.map chain).getD [] := by
  cases l <;> rfl

end Locale

end Captions

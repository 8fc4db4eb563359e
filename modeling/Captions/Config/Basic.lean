import Captions.Captioner
import Captions.Decimal.Positional

/-!
# Configuration

The settings from which a session is opened, and what can be wrong with them. A check names every
problem at once: the base name first, then the locale, the tooltip suffix, the icon scale, and the
icons in the order of their names.

Results:
* `checked_eq_ok_iff`: a configuration passes the check exactly when it has no problems.
-/

namespace Captions

/-- The settings of a session. -/
structure Config where
  /-- The name under which the store keeps the bundles. -/
  baseName : String
  /-- The tag of the first locale. -/
  localeTag : String
  /-- What is put behind a key to find its tooltip. -/
  tooltipSuffix : String
  /-- The size of a glyph relative to the font around it. -/
  iconScale : Float32
  /-- The family that the host's icon face should have. -/
  iconFamily : String
  /-- Code points of icons beyond or in place of the bundled ones. -/
  icons : Std.TreeMap String UInt32

namespace Config

/-- The settings that hold where nothing else is said. -/
def default : Config where
  baseName := "messages"
  localeTag := ""
  tooltipSuffix := Captioner.defaultTooltipSuffix
  iconScale := Icons.defaultScale
  iconFamily := IconFace.materialDesignFamily
  icons := ∅

/-! ## Problems -/

/-- What is wrong with a setting. -/
inductive Problem where
  | blankBaseName
  | locale (error : TextError)
  | emptyTooltipSuffix
  | iconScale (scale : Float32)
  /-- The icon's code point has no character. -/
  | icon (name : String) (codePoint : UInt32)

def Problem.message : Problem → String
  | blankBaseName => "base_name must not be empty"
  | locale error => error.message
  | emptyTooltipSuffix => "tooltip_suffix must not be empty"
  | iconScale scale => "icon_scale must be finite and > 0, got " ++ float32Text scale
  | icon name codePoint =>
    "icon '" ++ name ++ "' has invalid code point " ++ TextError.codePointText codePoint

/-- Why there is no configuration, or none that can be used. -/
inductive Error where
  /-- The file cannot be read as text. -/
  | unreadable
  /-- The text is no configuration. -/
  | malformed
  /-- A setting that the check let pass is refused after all. -/
  | text (error : TextError)
  /-- The check found problems. -/
  | invalid (problems : List Problem)

/-- The wording of an error. A file that is unreadable or malformed has none of its own. -/
def Error.message? : Error → Option String
  | unreadable => none
  | malformed => none
  | text error => some error.message
  | invalid problems =>
    some ("validation errors: " ++ "; ".intercalate (problems.map Problem.message))

/-! ## What the settings mean -/

/-- The first locale. -/
def locale (config : Config) : Except TextError Locale := Locale.parse config.localeTag

/-- The bundled icons with the configured ones put in; the first unusable code point, in the order
of the names, is refused. -/
def glyphTable (config : Config) : Except TextError GlyphTable :=
  GlyphTable.materialDesign.insertCodePoints config.icons.toList

/-! ## The check -/

/-- Whether every character of the base name is blank. -/
def hasBlankBaseName (config : Config) : Bool := config.baseName.toList.all Text.isBlank

/-- Whether `scale` is of use as a size. -/
def isUsableScale (scale : Float32) : Bool := scale.isFinite && 0 < scale

/-- The icons whose code points have no character, in the order of their names. -/
def unusableIcons (config : Config) : List (String × UInt32) :=
  config.icons.toList.filter fun (_, codePoint) => (Text.scalar? codePoint.toNat).isNone

/-- All that is wrong with the settings. -/
def problems (config : Config) : List Problem :=
  (if config.hasBlankBaseName then [.blankBaseName] else []) ++
  (match config.locale with
    | .ok _ => []
    | .error error => [.locale error]) ++
  (if config.tooltipSuffix = "" then [.emptyTooltipSuffix] else []) ++
  (if isUsableScale config.iconScale then [] else [.iconScale config.iconScale]) ++
  config.unusableIcons.map fun (name, codePoint) => .icon name codePoint

/-- The configuration, unless there is something wrong with it. -/
def checked (config : Config) : Except Error Config :=
  match config.problems with
  | [] => .ok config
  | problems => .error (.invalid problems)

theorem checked_eq_ok_iff {config c : Config} :
    config.checked = .ok c ↔ config.problems = [] ∧ config = c := by
  unfold checked
  split <;> simp_all

end Config

end Captions

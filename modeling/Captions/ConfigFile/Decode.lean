import Captions.Config.Basic
import Captions.ConfigFile.Document

/-!
# Configurations from files

A configuration file is a TOML document with a key for each setting that differs from its default,
and with the icons as a table: under a header, between braces, or key by key with dots. Keys that
are unknown, given twice or of the wrong kind make the file malformed.
-/

namespace Captions.ConfigFile

/-! ## Bindings -/

/-- The values of a document by the full paths of their keys; `above` is the name of the section
that the first statement stands in. -/
def bindingsUnder (above : List String) : List Statement → List (List String × Scalar)
  | [] => []
  | .header name :: rest => bindingsUnder name rest
  | .entry key value :: rest => (above ++ key, value) :: bindingsUnder above rest
  | .table key entries :: rest =>
    (entries.map fun (k, value) => (above ++ key ++ k, value)) ++ bindingsUnder above rest

/-- The path of the table of icons. -/
def iconsPath : List String := ["icons"]

/-- The paths of the tables that statements make, under headers or between braces. -/
def tablesOf (above : List String) : List Statement → List (List String)
  | [] => []
  | .header name :: rest => name :: tablesOf name rest
  | .table key _ :: rest => (above ++ key) :: tablesOf above rest
  | .entry .. :: rest => tablesOf above rest

/-- Whether an icon is given by a dotted key outside of every section. -/
def hasDottedIcon : List Statement → Bool
  | .entry ("icons" :: _ :: _) _ :: _ => true
  | .header _ :: _ => false
  | _ :: rest => hasDottedIcon rest
  | [] => false

/-- Whether the table of icons is made in at most one way, and no other table is made. -/
def hasOneTable (statements : List Statement) : Bool :=
  let tables := tablesOf [] statements
  tables = [] || (tables = [iconsPath] && !hasDottedIcon statements)

/-! ## Settings -/

/-- The configuration with one setting or icon given, unless there is no such setting or the value
is not of its kind. -/
def assign? (config : Config) : List String × Scalar → Option Config
  | (["base_name"], .text s) => some { config with baseName := s }
  | (["locale"], .text s) => some { config with localeTag := s }
  | (["tooltip_suffix"], .text s) => some { config with tooltipSuffix := s }
  | (["icon_font_family"], .text s) => some { config with iconFamily := s }
  | (["icon_scale"], .float x) => some { config with iconScale := x.toFloat32 }
  | (["icon_scale"], .integer n) => some { config with iconScale := (Int64.ofInt n).toFloat32 }
  | (["icons", name], .integer n) =>
    if 0 ≤ n ∧ n < 0x100000000 then
      some { config with icons := config.icons.insert name (UInt32.ofNat n.toNat) }
    else none
  | _ => none

/-- The configuration that the statements of a document give. -/
def config? (statements : List Statement) : Option Config :=
  let bindings := bindingsUnder [] statements
  if hasOneTable statements ∧ (bindings.map (·.1)).Nodup then
    bindings.foldlM assign? Config.default
  else none

end Captions.ConfigFile

namespace Captions.Config

/-- The configuration that a text gives. -/
def ofText (text : String) : Except Error Config :=
  match (ConfigFile.statements? text).bind ConfigFile.config? with
  | some config => .ok config
  | none => .error .malformed

/-- The configuration in a file with the given bytes, which are to be UTF-8; without bytes the file
could not be read. -/
def ofFile (bytes : Option ByteArray) : Except Error Config :=
  match bytes.bind String.fromUTF8? with
  | some text => ofText text
  | none => .error .unreadable

end Captions.Config

import Captions.Config.Basic

/-!
# Captioning sessions

A session keeps the store, so that the catalog can be loaded again for another locale, and the
captioner in use. Opening a session always succeeds once the settings are in order: a missing bundle
leaves the keys as captions, and a missing icon face switches the icons off.

Results:
* `enabled_openWith`: icons are enabled exactly when the host has provided a face.
* `setLocale_value`: a change of the locale replaces the catalog and nothing else.
-/

namespace Captions

/-- The captions of an application, in one locale at a time. -/
structure Session where
  store : Store
  baseName : String
  captioner : Captioner

namespace Session

/-! ## Opening -/

/-- The face that `host` provides, if it does; the outcome is reported. -/
def registerFace (host : FontHost) : Traced (Option IconFace) := do
  Traced.effect .faceRequest
  match host.register with
  | .ok face =>
    Traced.report (.faceRegistered face.family)
    return some face
  | .error error =>
    Traced.report (.faceFailed error)
    return none

/-- A session over `store` with the icons of `table`. Without a face the icons are disabled. -/
def openWith (table : GlyphTable) (store : Store) (host : FontHost) (baseName : String)
    (locale : Locale) : Traced Session := do
  let catalog ← Catalog.load store baseName locale
  let iconFace ← registerFace host
  return {
    store, baseName
    captioner := {
      catalog, iconFace
      icons := if iconFace.isSome then .ofTable table else .disabled table
      tooltipSuffix := Captioner.defaultTooltipSuffix } }

/-- A session with the bundled icons and the usual settings. -/
def ofStore (store : Store) (host : FontHost) (baseName : String) (locale : Locale) :
    Traced Session :=
  openWith .materialDesign store host baseName locale

/-- The session with the icon scale and the tooltip suffix of `config`. -/
def configure (session : Session) (config : Config) : Session :=
  { session with
    captioner := { session.captioner with
      icons := session.captioner.icons.withScale config.iconScale
      tooltipSuffix := config.tooltipSuffix } }

/-- Reports a face of another family than `expected`. -/
def reportFamily (expected : String) : Option IconFace → Traced Unit
  | some face =>
    if face.family = expected then pure () else Traced.report (.unexpectedFace expected face.family)
  | none => pure ()

/-- The locale and the glyph table of a configuration that passes the check. -/
def prepare (config : Config) : Except Config.Error (Locale × GlyphTable) := do
  let config ← config.checked
  let locale ← config.locale.mapError Config.Error.text
  let table ← config.glyphTable.mapError Config.Error.text
  return (locale, table)

/-- A session with the settings of `config`. Neither the store nor the host is asked for anything if
the configuration does not pass the check. -/
def ofConfig (config : Config) (store : Store) (host : FontHost) :
    Traced (Except Config.Error Session) :=
  match prepare config with
  | .error error => pure (.error error)
  | .ok (locale, table) => do
    let session ← openWith table store host config.baseName locale
    reportFamily config.iconFamily session.captioner.iconFace
    return .ok (session.configure config)

/-! ## Changing -/

/-- The session after its catalog has been loaded for `locale`. -/
def setLocale (session : Session) (locale : Locale) : Traced Session := do
  let catalog ← Catalog.load session.store session.baseName locale
  Traced.report (.catalogReloaded session.baseName catalog.locale)
  return { session with captioner := { session.captioner with catalog } }

/-- The session over another state of its store. The catalog in use stays until the next change of
the locale. -/
def withStore (session : Session) (store : Store) : Session := { session with store }

/-! ## Asking -/

/-- The catalog in use. -/
def catalog (session : Session) : Catalog := session.captioner.catalog

def icons (session : Session) : Icons := session.captioner.icons

def iconFace (session : Session) : Option IconFace := session.captioner.iconFace

theorem enabled_openWith (table : GlyphTable) (store : Store) (host : FontHost) (baseName : String)
    (locale : Locale) :
    (openWith table store host baseName locale).value.icons.enabled =
      (openWith table store host baseName locale).value.iconFace.isSome := by
  simp only [openWith, Traced.value_bind, Traced.value_pure, icons, iconFace]
  split <;> simp_all [Icons.ofTable, Icons.disabled]

theorem setLocale_value (session : Session) (locale : Locale) :
    (session.setLocale locale).value =
      { session with
        captioner := { session.captioner with
          catalog := (Catalog.load session.store session.baseName locale).value } } := rfl

end Session

end Captions

import Captions.Proofs.Config.Gate
import Captions.Proofs.Locale.Written
import Captions.Proofs.Session.LocaleSwitch

/-!
# A configuration with the usual settings

A session can be opened with the usual settings, or from a configuration. If the configuration says
no more than the base name, the locale and the family that the face should have, both ways lead to
the same session, and so to the same answers and effects from then on. The family makes no
difference to the session: a face of another one is reported and used all the same.

Results:
* `problems_usual_eq_nil_iff`: such a configuration has no problems unless its base name is blank.
* `prepare_usual`: it stands for the locale it was written from and the bundled icons.
* `serveOver_const`: over a store that stays the same, requests are served as they always are.
* `configure_openWith_usual`: its settings change nothing in a session with the usual ones.
* `ofConfig_usual`: it opens the session with the usual settings.
-/

namespace Captions

/-! ## The settings -/

namespace Config

/-- The configuration with the usual settings for a base name, a locale and a family that the icon
face should have. -/
def usual (baseName : String) (locale : Locale) (iconFamily : String) : Config :=
  { default with baseName, localeTag := locale.tag, iconFamily }

variable (baseName : String) (locale : Locale) (iconFamily : String)

theorem locale_usual : (usual baseName locale iconFamily).locale = .ok locale :=
  Locale.parse_tag locale

theorem glyphTable_usual : (usual baseName locale iconFamily).glyphTable = .ok .materialDesign := rfl

theorem problems_usual_eq_nil_iff :
    (usual baseName locale iconFamily).problems = [] ↔
      ∃ c ∈ baseName.toList, Text.isBlank c = false := by
  have hname : (usual baseName locale iconFamily).hasBlankBaseName =
      baseName.toList.all Text.isBlank := rfl
  have hsuffix : Captioner.defaultTooltipSuffix ≠ "" := by decide
  have hscale : isUsableScale Icons.defaultScale = true := by decide +kernel
  have hicons : (usual baseName locale iconFamily).unusableIcons = [] := rfl
  rw [problems_eq_nil_iff, hname, List.all_eq_false]
  simp only [Bool.not_eq_true]
  exact and_iff_left ⟨⟨locale, locale_usual ..⟩, hsuffix, hscale, hicons⟩

end Config

namespace Session

/-! ## Requests over a store that changes -/

/-- The session after a row of requests, each with the store as it is at its moment, and their
answers. While a request is answered the store is asked at most once for each bundle, so it does not
matter whether it changes in the meantime. -/
def serveOver (session : Session) : List (Store × Request) → Traced (Session × List Answer)
  | [] => pure (session, [])
  | (store, request) :: requests => do
    let (session, first) ← (session.withStore store).answer request
    let (session, rest) ← session.serveOver requests
    return (session, first :: rest)

/-- A request never replaces the store. -/
theorem store_answer (session : Session) (request : Request) :
    (session.answer request).value.1.store = session.store := by
  rw [value_answer]
  cases request.locale? with
  | some locale => rfl
  | none => rfl

/-- Over a store that stays the same the requests are served as they always are. -/
theorem serveOver_const (session : Session) (requests : List Request) :
    session.serveOver (requests.map fun request => (session.store, request)) =
      session.serve requests := by
  induction requests generalizing session with
  | nil => rfl
  | cons request requests ih =>
    have hrest := ih (session.answer request).value.1
    rw [store_answer] at hrest
    rw [serve_cons, ← hrest, List.map_cons, serveOver]
    simp [bind, pure, withStore]

/-! ## Opening -/

/-- The report of a face that `host` gives, if it is not of the family that is expected. -/
def unexpectedFace? (expected : String) (host : FontHost) : Option Event :=
  match host.register with
  | .ok face =>
    if face.family = expected then none else some (.unexpectedFace expected face.family)
  | .error _ => none

variable {baseName : String} (locale : Locale) (iconFamily : String) (store : Store)
  (host : FontHost)

theorem prepare_usual (h : ∃ c ∈ baseName.toList, Text.isBlank c = false) :
    prepare (.usual baseName locale iconFamily) = .ok (locale, .materialDesign) :=
  prepare_eq_ok_iff.mpr
    ⟨(Config.problems_usual_eq_nil_iff ..).mpr h, Config.locale_usual .., Config.glyphTable_usual ..⟩

/-- The usual settings change nothing in a session that has them. -/
theorem configure_openWith_usual (table : GlyphTable) (name : String) :
    (openWith table store host name locale).value.configure (.usual baseName locale iconFamily) =
      (openWith table store host name locale).value := by
  simp only [openWith, Traced.value_bind, Traced.value_pure, configure]
  cases (registerFace host).value with
  | some face => rfl
  | none => rfl

theorem effects_reportFamily_registerFace (expected : String) :
    (reportFamily expected (registerFace host).value).effects =
      ((unexpectedFace? expected host).map Effect.event).toList := by
  rw [registerFace, unexpectedFace?, Traced.value_bind]
  cases host.register with
  | ok face =>
    by_cases hfamily : face.family = expected
    · simp [reportFamily, hfamily]
    · simp [reportFamily, hfamily]
  | error error => rfl

section Opened

variable (h : ∃ c ∈ baseName.toList, Text.isBlank c = false)

include h

theorem value_ofConfig_usual :
    (ofConfig (.usual baseName locale iconFamily) store host).value =
      .ok (ofStore store host baseName locale).value :=
  value_ofConfig_eq_ok_iff.mpr
    ⟨locale, .materialDesign, prepare_usual locale iconFamily h, configure_openWith_usual ..⟩

theorem effects_ofConfig_usual :
    (ofConfig (.usual baseName locale iconFamily) store host).effects =
      (ofStore store host baseName locale).effects ++
        ((unexpectedFace? iconFamily host).map Effect.event).toList := by
  rw [ofConfig, prepare_usual locale iconFamily h, ← effects_reportFamily_registerFace]
  simp only [Traced.effects_bind, Traced.effects_pure, List.append_nil]
  rfl

end Opened

theorem severity_unexpectedFace? {expected : String} {host : FontHost} {e : Event}
    (h : e ∈ unexpectedFace? expected host) : e.severity = .warning := by
  rw [unexpectedFace?] at h
  split at h
  · split at h
    · contradiction
    · rw [← Option.some.inj h]
      rfl
  · contradiction

/-- **A configuration with the usual settings opens the session with the usual settings.** From then
on the answers and the effects are the same, whatever becomes of the store. Opening it makes the same
requests and the same reports; there is one more at the end, a warning, if the host has given a face
of another family than the one that is configured. -/
theorem ofConfig_usual (h : ∃ c ∈ baseName.toList, Text.isBlank c = false) :
    ∃ session, (ofConfig (.usual baseName locale iconFamily) store host).value = .ok session ∧
      session = (ofStore store host baseName locale).value ∧
      (∀ requests, session.serveOver requests =
        (ofStore store host baseName locale).value.serveOver requests) ∧
      (ofConfig (.usual baseName locale iconFamily) store host).effects =
        (ofStore store host baseName locale).effects ++
          ((unexpectedFace? iconFamily host).map Effect.event).toList ∧
      ∀ e ∈ unexpectedFace? iconFamily host, e.severity = .warning :=
  ⟨_, value_ofConfig_usual locale iconFamily store host h, rfl, fun _ => rfl,
    effects_ofConfig_usual locale iconFamily store host h, fun _ => severity_unexpectedFace?⟩

/-- A store that fails for the locale, a host with a face of another family, and a store that comes
to hold nothing before the locale is changed. -/
theorem ofConfig_usual_otherFamily :
    let config := Config.usual "app" .german "Material Design Icons"
    let host := FontHost.offering "Icons"
    let requests := [(Store.rootOnly, .resolve "undo" ["2"]),
      (BundleList.empty.toStore, .setLocale .root), (Store.rootOnly, .text "undo" [])]
    (∃ c ∈ "app".toList, Text.isBlank c = false) ∧
      ∃ session, (ofConfig config .rootOnly host).value = .ok session ∧
        session.serveOver requests = (ofStore .rootOnly host "app" .german).value.serveOver requests ∧
        (ofConfig config .rootOnly host).effects =
          (ofStore .rootOnly host "app" .german).effects ++
            [.event (.unexpectedFace "Material Design Icons" "Icons")] := by
  intro config host requests
  have hname : ∃ c ∈ "app".toList, Text.isBlank c = false := ⟨'a', by decide, by decide⟩
  obtain ⟨session, hsession, -, hserve, heffects, -⟩ :=
    ofConfig_usual .german "Material Design Icons" .rootOnly host hname
  have hface : unexpectedFace? "Material Design Icons" host =
      some (.unexpectedFace "Material Design Icons" "Icons") := by decide +kernel
  rw [hface] at heffects
  exact ⟨hname, session, hsession, hserve requests, heffects⟩

end Session

end Captions

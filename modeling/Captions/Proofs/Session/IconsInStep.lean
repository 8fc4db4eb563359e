import Captions.Proofs.Captioner.Applied
import Captions.Proofs.Captioner.Reported
import Captions.Proofs.Catalog.Fallback
import Captions.Proofs.Config.Gate
import Captions.Proofs.Icon.Drawn
import Captions.Proofs.Session.Requests

/-!
# The icons keep in step with their face

Whether icons are resolved and whether there is a face to draw them in are two settings of a
session. Both are made at the opening, from what the host answers, and nothing that is done with the
session afterwards parts them. So a caption with glyphs always finds a face; and without a face
captions come out as they are, no icon is looked for and no font is changed.

Results:
* `concernsCaption_eq_false_of_mem_run`, `concernsCaption_eq_false_of_mem_setLocale`: opening a
  session and changing its locale report no fault of a caption.
* `font_applied_apply`, `not_reports_noIconFace`: with icons and face in step, a caption with glyphs
  gets the face.
* `value_resolve_of_disabled`, `not_reports_unknownIcon`: with icons switched off a caption comes
  out as it is, and no icon is looked for.
* `reports_of_mem_answer`: what a request reports is about no caption, or has a cause in the
  captioner.
* `Reachable.isInStep`: icons and face are in step in every session that comes about.
* `followsFace_of_reachable`: what follows for captions, widgets and reports.
-/

namespace Captions

/-! ## Faults of captions -/

/-- Whether an event tells of a caption, and not of a bundle or of the host's face. -/
def Event.concernsCaption : Event → Bool
  | surplusArguments .. | unknownIcon _ | unsupportedWidget .. | noIconFace _ => true
  | bundleFailed .. | noBundles .. | faceRegistered _ | faceFailed _ | unexpectedFace .. |
    catalogReloaded .. => false

theorem Catalog.concernsCaption_eq_false_of_mem_load {store : Store} {baseName : String}
    {locale : Locale} {e : Event} (h : e ∈ (load store baseName locale).events) :
    e.concernsCaption = false := by
  rw [events_load, List.mem_append, List.mem_filterMap] at h
  rcases h with ⟨candidate, -, hfailure⟩ | h
  · obtain ⟨error, -, rfl⟩ := Option.map_eq_some_iff.mp hfailure
    rfl
  · split at h
    · rw [List.mem_singleton.mp h]
      rfl
    · simp at h

namespace Session

theorem concernsCaption_eq_false_of_mem_setLocale {session : Session} {locale : Locale} {e : Event}
    (h : e ∈ (session.setLocale locale).events) : e.concernsCaption = false := by
  simp only [setLocale, Traced.events_bind, Traced.events_report, Traced.events_pure,
    List.append_nil, List.mem_append, List.mem_singleton] at h
  rcases h with h | rfl
  · exact Catalog.concernsCaption_eq_false_of_mem_load h
  · rfl

theorem events_registerFace (host : FontHost) :
    (registerFace host).events =
      [match host.register with
        | .ok face => .faceRegistered face.family
        | .error error => .faceFailed error] := by
  rw [registerFace, Traced.events_bind]
  cases host.register with
  | ok face => rfl
  | error error => rfl

theorem concernsCaption_eq_false_of_mem_openWith {table : GlyphTable} {store : Store}
    {host : FontHost} {baseName : String} {locale : Locale} {e : Event}
    (h : e ∈ (openWith table store host baseName locale).events) : e.concernsCaption = false := by
  simp only [openWith, Traced.events_bind, events_registerFace, Traced.events_pure,
    List.append_nil, List.mem_append, List.mem_singleton] at h
  rcases h with h | rfl
  · exact Catalog.concernsCaption_eq_false_of_mem_load h
  · cases host.register with
    | ok face => rfl
    | error error => rfl

theorem concernsCaption_eq_false_of_mem_reportFamily {expected : String} {face : Option IconFace}
    {e : Event} (h : e ∈ (reportFamily expected face).events) : e.concernsCaption = false := by
  unfold reportFamily at h
  split at h
  · split at h
    · simp at h
    · rw [List.mem_singleton.mp h]
      rfl
  · simp at h

theorem concernsCaption_eq_false_of_mem_ofConfig {config : Config} {store : Store} {host : FontHost}
    {e : Event} (h : e ∈ (ofConfig config store host).events) : e.concernsCaption = false := by
  unfold ofConfig at h
  split at h
  · simp at h
  · simp only [Traced.events_bind, Traced.events_pure, List.append_nil, List.mem_append] at h
    rcases h with h | h
    · exact concernsCaption_eq_false_of_mem_openWith h
    · exact concernsCaption_eq_false_of_mem_reportFamily h

end Session

theorem Opening.concernsCaption_eq_false_of_mem_run {opening : Opening} {store : Store}
    {host : FontHost} {e : Event} (h : e ∈ (opening.run store host).events) :
    e.concernsCaption = false := by
  cases opening with
  | usual baseName locale =>
    rw [run, Traced.events_bind, Traced.events_pure, List.append_nil] at h
    exact Session.concernsCaption_eq_false_of_mem_openWith h
  | configured config => exact Session.concernsCaption_eq_false_of_mem_ofConfig h

/-! ## Captions with icons and face in step -/

theorem Icons.enabled_of_hasGlyphs {icons : Icons} {caption : String}
    (h : (icons.resolve caption).value.hasGlyphs = true) : icons.enabled = true := by
  rw [value_resolve] at h
  by_contra hdisabled
  exact not_draws_of_disabled (Bool.eq_false_iff.mpr hdisabled) caption
    (hasGlyphs_resolution_iff.mp h)

namespace Captioner

section

variable {c : Captioner} (widget : Widget) (key : String) (args : List String)

/-- A caption with glyphs gets the face. -/
theorem font_applied_apply (h : c.icons.enabled = c.iconFace.isSome) :
    (c.apply widget key args).value.applied.font =
      (widget.parts.font && (c.resolve key args).value.hasGlyphs) := by
  rw [value_apply]
  cases hfont : widget.parts.font && (c.resolve key args).value.hasGlyphs with
  | false => rfl
  | true =>
    have henabled := Icons.enabled_of_hasGlyphs (Bool.and_eq_true_iff.mp hfont).2
    obtain ⟨face, hface⟩ := Option.isSome_iff_exists.mp (h ▸ henabled)
    rw [hface]
    rfl

/-- No caption with glyphs goes without a face. -/
theorem not_reports_noIconFace (h : c.icons.enabled = c.iconFace.isSome) :
    ¬ c.Reports (.noIconFace key) := by
  rintro (_ | _ | _ | ⟨hglyphs, hface⟩)
  have henabled := Icons.enabled_of_hasGlyphs hglyphs
  rw [h, hface] at henabled
  contradiction

/-- With icons switched off a caption comes out as it is. -/
theorem value_resolve_of_disabled (h : c.icons.enabled = false) :
    (c.resolve key args).value = .plain (c.text key args).value := by
  rw [resolve, Traced.value_bind, Icons.value_resolve, Icons.resolution_disabled h]

theorem font_notMem_updates_of_disabled (h : c.icons.enabled = false) (font : Font) :
    .font font ∉ (c.apply widget key args).value.updates := by
  intro hmem
  obtain ⟨-, hglyphs, -⟩ := (font_mem_updates_apply_iff ..).mp hmem
  rw [value_resolve_of_disabled key args h] at hglyphs
  contradiction

/-- With icons switched off no icon is looked for. -/
theorem not_reports_unknownIcon (h : c.icons.enabled = false) (name : String) :
    ¬ c.Reports (.unknownIcon name) := by
  rintro (_ | hname)
  rw [value_resolve_of_disabled _ _ h] at hname
  contradiction

end

end Captioner

/-! ## Sessions with icons and face in step -/

namespace Session

/-- The sessions that come about with `host`: one is opened, requests are answered, and what the
store holds may change at any time. -/
inductive Reachable (host : FontHost) : Session → Prop where
  | opened {opening : Opening} {store : Store} {session : Session} :
      (opening.run store host).value = .ok session → Reachable host session
  | answered {session : Session} (request : Request) :
      Reachable host session → Reachable host (session.answer request).value.1
  | restocked {session : Session} (store : Store) :
      Reachable host session → Reachable host (session.withStore store)

/-- The face is the one that the host has given, and icons are resolved exactly if there is one. -/
structure IsInStep (host : FontHost) (session : Session) : Prop where
  iconFace_eq : session.iconFace = host.register.toOption
  enabled_eq : session.icons.enabled = session.iconFace.isSome

theorem value_registerFace (host : FontHost) :
    (registerFace host).value = host.register.toOption := by
  rw [registerFace, Traced.value_bind]
  cases host.register with
  | ok face => rfl
  | error error => rfl

theorem isInStep_openWith (table : GlyphTable) (store : Store) (host : FontHost)
    (baseName : String) (locale : Locale) :
    IsInStep host (openWith table store host baseName locale).value where
  iconFace_eq := value_registerFace host
  enabled_eq := enabled_openWith table store host baseName locale

theorem isInStep_of_run {opening : Opening} {store : Store} {host : FontHost} {session : Session}
    (h : (opening.run store host).value = .ok session) : IsInStep host session := by
  cases opening with
  | usual baseName locale =>
    cases h
    exact isInStep_openWith ..
  | configured config =>
    obtain ⟨locale, table, -, rfl⟩ := value_ofConfig_eq_ok_iff.mp h
    obtain ⟨hface, henabled⟩ := isInStep_openWith table store host config.baseName locale
    exact ⟨hface, henabled⟩

theorem IsInStep.answer {host : FontHost} {session : Session} (h : IsInStep host session)
    (request : Request) : IsInStep host (session.answer request).value.1 := by
  rw [value_answer]
  cases request.locale? with
  | some locale => exact ⟨h.iconFace_eq, h.enabled_eq⟩
  | none => exact h

theorem IsInStep.after {host : FontHost} {session : Session} (h : IsInStep host session)
    (requests : List Request) : IsInStep host (session.after requests) := by
  induction requests generalizing session with
  | nil => exact h
  | cons request requests ih => exact ih (h.answer request)

theorem Reachable.isInStep {host : FontHost} {session : Session} (h : Reachable host session) :
    IsInStep host session := by
  induction h with
  | opened h => exact isInStep_of_run h
  | answered request _ ih => exact ih.answer request
  | restocked store _ ih => exact ⟨ih.iconFace_eq, ih.enabled_eq⟩

/-! ## What is reported -/

variable {session : Session}

/-- A request reports a cause of the captioner in use, or nothing about a caption. -/
theorem reports_of_mem_answer {request : Request} {e : Event}
    (h : e ∈ (session.answer request).events) :
    e.concernsCaption = false ∨ session.captioner.Reports e := by
  rw [events_answer] at h
  cases request with
  | setLocale locale => exact .inl (concernsCaption_eq_false_of_mem_setLocale h)
  | locale => contradiction
  | catalog => contradiction
  | text key args => exact .inr (Captioner.reports_of_mem_text h)
  | resolve key args => exact .inr (Captioner.reports_of_mem_resolve h)
  | setText widget key args => exact .inr (Captioner.reports_of_mem_apply h)

/-! ## The contract of the icons -/

/-- What icons and face in step come to, for captions, widgets and reports. -/
structure FollowsFace (host : FontHost) (session : Session) : Prop where
  iconFace_eq : session.iconFace = host.register.toOption
  enabled_iff : session.icons.enabled = true ↔ session.iconFace.isSome = true
  /-- A widget is given a font exactly if it takes one and the caption has glyphs. -/
  applied_font_iff : ∀ widget key args,
    (session.captioner.apply widget key args).value.applied.font = true ↔
      widget.parts.font = true ∧ (session.captioner.resolve key args).value.hasGlyphs = true
  noIconFace_notMem : ∀ request key, .noIconFace key ∉ (session.answer request).events
  /-- If the host has no face, captions come out as they are. -/
  resolve_eq_of_error : ∀ error, host.register = .error error → ∀ key args,
    (session.captioner.resolve key args).value =
      { text := (session.captioner.text key args).value, spans := [], unresolved := [] }
  unknownIcon_notMem_of_error : ∀ error, host.register = .error error → ∀ request name,
    .unknownIcon name ∉ (session.answer request).events
  font_notMem_of_error : ∀ error, host.register = .error error → ∀ widget key args font,
    .font font ∉ (session.captioner.apply widget key args).value.updates

theorem IsInStep.enabled_eq_false {host : FontHost} (h : IsInStep host session) {error : FontError}
    (herror : host.register = .error error) : session.icons.enabled = false := by
  rw [h.enabled_eq, h.iconFace_eq, herror]
  rfl

theorem IsInStep.followsFace {host : FontHost} (h : IsInStep host session) :
    FollowsFace host session where
  iconFace_eq := h.iconFace_eq
  enabled_iff := by rw [h.enabled_eq]
  applied_font_iff widget key args := by
    rw [Captioner.font_applied_apply widget key args h.enabled_eq, Bool.and_eq_true]
  noIconFace_notMem request key hmem := by
    rcases reports_of_mem_answer hmem with hcaption | hreports
    · contradiction
    · exact Captioner.not_reports_noIconFace key h.enabled_eq hreports
  resolve_eq_of_error error herror key args :=
    Captioner.value_resolve_of_disabled key args (h.enabled_eq_false herror)
  unknownIcon_notMem_of_error error herror request name hmem := by
    rcases reports_of_mem_answer hmem with hcaption | hreports
    · contradiction
    · exact Captioner.not_reports_unknownIcon (h.enabled_eq_false herror) name hreports
  font_notMem_of_error error herror widget key args font :=
    Captioner.font_notMem_updates_of_disabled widget key args (h.enabled_eq_false herror) font

/-- **The icons keep in step with their face.** In every session that comes about with a host, icons
are resolved exactly if the host has given a face, with all that follows for captions, widgets and
reports. Already the opening reports neither a caption without a face nor an unknown icon. -/
theorem followsFace_of_reachable (host : FontHost) :
    (∀ session, Reachable host session → FollowsFace host session) ∧
      ∀ (opening : Opening) (store : Store),
        (∀ key, .noIconFace key ∉ (opening.run store host).events) ∧
          ∀ name, .unknownIcon name ∉ (opening.run store host).events := by
  refine ⟨fun session h => h.isInStep.followsFace, fun opening store => ⟨?_, ?_⟩⟩
  · intro key hmem
    have := Opening.concernsCaption_eq_false_of_mem_run hmem
    contradiction
  · intro name hmem
    have := Opening.concernsCaption_eq_false_of_mem_run hmem
    contradiction

/-- A session without a face, over another store than it was opened with. -/
theorem followsFace_of_reachable_withoutFace :
    let opened := (ofStore BundleList.empty.toStore .withoutFace "app" .root).value
    let store := (BundleList.empty.insert "app" .root (.ofList [("undo", "{{icon:undo}}")])).toStore
    let session := ((opened.withStore store).answer (.setLocale .root)).value.1
    Reachable .withoutFace session ∧ FollowsFace .withoutFace session ∧
      (session.captioner.resolve "undo" []).value.text = "{{icon:undo}}" := by
  intro opened store session
  have hopened : Reachable .withoutFace opened :=
    @Reachable.opened .withoutFace (.usual "app" .root) BundleList.empty.toStore _ rfl
  have hsession : Reachable .withoutFace session := .answered _ (.restocked store hopened)
  exact ⟨hsession, (followsFace_of_reachable .withoutFace).1 session hsession, by decide +kernel⟩

end Session

end Captions

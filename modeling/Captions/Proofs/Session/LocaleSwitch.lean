import Captions.Proofs.Catalog.Fallback
import Captions.Proofs.Config.Gate
import Captions.Proofs.Locale.Written
import Captions.Proofs.Session.Requests

/-!
# A change of the locale leaves no residue

The catalog of a session is always the one that its store gives for the locale in use: it is loaded
as a whole, and nothing of an earlier one is kept, whether its bundles were there, were missing or
failed. So after any row of requests a session is the one that would have been opened in the last
locale that was set, and answers like it from then on.

Results:
* `isLoaded_of_run`, `IsLoaded.answer`: the catalog is the one of the locale in use, from the
  opening on and over every request.
* `IsLoaded.after_eq`: of a row of requests only the last locale is left.
* `value_run_withLocale`: opening in another locale is opening and then changing the locale.
* `after_eq_fresh`: the session after a row of requests is the one opened in the last locale.
-/

namespace Captions

/-! ## Loading again -/

theorem Catalog.locale_load (store : Store) (baseName : String) (locale : Locale) :
    (load store baseName locale).value.locale = locale := by
  rw [value_load]

namespace Session

/-- The catalog in use is the one that the store gives for its locale. -/
def IsLoaded (session : Session) : Prop :=
  session.catalog = (Catalog.load session.store session.baseName session.catalog.locale).value

variable {session : Session}

theorem isLoaded_of_eq_load {locale : Locale}
    (h : session.catalog = (Catalog.load session.store session.baseName locale).value) :
    IsLoaded session := by
  rw [IsLoaded, h, Catalog.locale_load]

theorem locale_setLocale (session : Session) (locale : Locale) :
    (session.setLocale locale).value.catalog.locale = locale :=
  Catalog.locale_load session.store session.baseName locale

theorem isLoaded_setLocale (session : Session) (locale : Locale) :
    IsLoaded (session.setLocale locale).value :=
  isLoaded_of_eq_load rfl

theorem setLocale_setLocale (session : Session) (first second : Locale) :
    ((session.setLocale first).value.setLocale second).value = (session.setLocale second).value :=
  rfl

/-- To set the locale in use again changes nothing. -/
theorem IsLoaded.setLocale_locale (h : IsLoaded session) :
    (session.setLocale session.catalog.locale).value = session := by
  rw [setLocale_value, ← h]
  rfl

/-- A request leaves the session as a change to the locale in use after it. -/
theorem IsLoaded.value_answer_eq (h : IsLoaded session) (request : Request) :
    (session.answer request).value.1 =
      (session.setLocale (request.locale?.getD session.catalog.locale)).value := by
  rw [value_answer]
  cases request.locale? with
  | some locale => rfl
  | none => exact h.setLocale_locale.symm

theorem IsLoaded.answer (h : IsLoaded session) (request : Request) :
    IsLoaded (session.answer request).value.1 := by
  rw [h.value_answer_eq]
  exact isLoaded_setLocale ..

/-- Of a row of requests only the last locale is left. -/
theorem IsLoaded.after_eq (h : IsLoaded session) (requests : List Request) :
    session.after requests =
      (session.setLocale (lastLocale session.catalog.locale requests)).value := by
  induction requests generalizing session with
  | nil => exact h.setLocale_locale.symm
  | cons request requests ih =>
    rw [after_cons, ih (h.answer request), h.value_answer_eq, setLocale_setLocale, locale_setLocale,
      lastLocale_cons]

theorem IsLoaded.after (h : IsLoaded session) (requests : List Request) :
    IsLoaded (session.after requests) := by
  rw [h.after_eq]
  exact isLoaded_setLocale ..

end Session

/-! ## Opening in another locale -/

namespace Opening

variable {opening : Opening} {store : Store} {host : FontHost} {session : Session}

/-- A configuration is of use in every locale if it is in one. -/
theorem prepare_withLocale {config : Config} {first : Locale} {table : GlyphTable}
    (h : Session.prepare config = .ok (first, table)) (locale : Locale) :
    Session.prepare { config with localeTag := locale.tag } = .ok (locale, table) := by
  rw [Session.prepare_eq_ok_iff, Config.problems_eq_nil_iff] at h ⊢
  obtain ⟨⟨hname, -, hsuffix, hscale, hicons⟩, -, htable⟩ := h
  have hlocale : ({ config with localeTag := locale.tag } : Config).locale = .ok locale :=
    Locale.parse_tag locale
  exact ⟨⟨hname, ⟨locale, hlocale⟩, hsuffix, hscale, hicons⟩, hlocale, htable⟩

theorem isLoaded_of_run (h : (opening.run store host).value = .ok session) : session.IsLoaded := by
  cases opening with
  | usual baseName locale =>
    cases h
    exact Session.isLoaded_of_eq_load rfl
  | configured config =>
    obtain ⟨locale, table, -, rfl⟩ := Session.value_ofConfig_eq_ok_iff.mp h
    exact Session.isLoaded_of_eq_load rfl

/-- Opening in another locale is opening and then changing the locale. -/
theorem value_run_withLocale (h : (opening.run store host).value = .ok session)
    (locale : Locale) :
    ((opening.withLocale locale).run store host).value = .ok (session.setLocale locale).value := by
  cases opening with
  | usual baseName first =>
    cases h
    rfl
  | configured config =>
    obtain ⟨first, table, hprepare, rfl⟩ := Session.value_ofConfig_eq_ok_iff.mp h
    exact Session.value_ofConfig_eq_ok_iff.mpr
      ⟨locale, table, prepare_withLocale hprepare locale, rfl⟩

/-- **A change of the locale leaves no residue.** After any row of requests a session is the one
that the same opening gives in the last locale that was set, and whatever is asked later has the
answers and the effects that it has there. The base name, the icons, their face and the tooltip
suffix are those from the opening. -/
theorem after_eq_fresh (h : (opening.run store host).value = .ok session)
    (requests : List Request) :
    ∃ fresh : Session,
      ((opening.withLocale (lastLocale session.catalog.locale requests)).run store host).value =
          .ok fresh ∧
        session.after requests = fresh ∧
        (∀ later,
          (session.serve (requests ++ later)).value.2 =
              (session.serve requests).value.2 ++ (fresh.serve later).value.2 ∧
            (session.serve (requests ++ later)).effects =
              (session.serve requests).effects ++ (fresh.serve later).effects) ∧
        fresh.baseName = session.baseName ∧ fresh.icons = session.icons ∧
          fresh.iconFace = session.iconFace ∧
          fresh.captioner.tooltipSuffix = session.captioner.tooltipSuffix := by
  have hafter := (isLoaded_of_run h).after_eq requests
  refine ⟨_, value_run_withLocale h _, hafter, fun later => ?_, rfl, rfl, rfl, rfl⟩
  rw [Session.serve_append, hafter]
  exact ⟨rfl, rfl⟩

end Opening

def Locale.german : Locale := .language ⟨"de", by decide, by decide, by simp⟩

/-- A store that has a bundle for the root and fails for every language. -/
def Store.rootOnly : Store where
  load
    | _, .root => .ok (some (.ofList [("undo", "{{icon:undo}} {{n}}")]))
    | baseName, locale => .error (.store baseName locale.tag "unreadable")

/-- The bundle of the root comes back after a failure. -/
theorem Opening.after_eq_fresh_failed_reload :
    let requests := [.setLocale .german, .text "undo" ["2"], .setLocale .root, .resolve "undo" []]
    ∃ session fresh : Session,
      ((Opening.configured .default).run .rootOnly (.offering "Icons")).value = .ok session ∧
        ((Opening.configured { Config.default with localeTag := "" }).run .rootOnly
          (.offering "Icons")).value = .ok fresh ∧
        session.after requests = fresh ∧ fresh.icons = session.icons := by
  intro requests
  have hproblems : Config.default.problems = [] := List.isEmpty_iff.mp (by decide +kernel)
  obtain ⟨session, hsession⟩ : ∃ session : Session,
      ((Opening.configured .default).run .rootOnly (.offering "Icons")).value = .ok session :=
    Session.exists_ofConfig_of_problems_eq_nil hproblems .rootOnly (.offering "Icons")
  obtain ⟨fresh, hfresh, hafter, -, -, hicons, -⟩ := after_eq_fresh hsession requests
  exact ⟨session, fresh, hsession, hfresh, hafter, hicons⟩

end Captions

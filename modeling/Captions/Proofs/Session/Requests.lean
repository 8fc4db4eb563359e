import Captions.Session

/-!
# Sessions and what is asked of them

The two ways to open a session and all that an open session answers. A row of requests is answered
from first to last, and only a change of the locale changes the session on the way.

Results:
* `serve_append`: requests that follow others are answered by the session that those leave behind.
* `value_answer`: only a change of the locale changes the session.
-/

namespace Captions

/-! ## Opening -/

/-- A way to open a session. -/
inductive Opening where
  /-- With the bundled icons and the usual settings. -/
  | usual (baseName : String) (locale : Locale)
  | configured (config : Config)

namespace Opening

/-- The session, or why a configuration opens none. -/
def run (store : Store) (host : FontHost) : Opening → Traced (Except Config.Error Session)
  | usual baseName locale => do return .ok (← Session.ofStore store host baseName locale)
  | configured config => Session.ofConfig config store host

/-- The same opening in another locale. -/
def withLocale (locale : Locale) : Opening → Opening
  | usual baseName _ => usual baseName locale
  | configured config => configured { config with localeTag := locale.tag }

end Opening

/-! ## Requests and answers -/

/-- What is asked of an open session. -/
inductive Request where
  | setLocale (locale : Locale)
  | locale
  | catalog
  | text (key : String) (args : List String)
  | resolve (key : String) (args : List String)
  /-- The caption of `key` is to be put on `widget`. -/
  | setText (widget : Widget) (key : String) (args : List String)

/-- The locale that a request changes to. -/
def Request.locale? : Request → Option Locale
  | setLocale l => some l
  | _ => none

/-- The locale after `requests`, if it was `first` before. -/
def lastLocale (first : Locale) (requests : List Request) : Locale :=
  (requests.filterMap Request.locale?).getLast?.getD first

theorem lastLocale_cons (first : Locale) (request : Request) (requests : List Request) :
    lastLocale first (request :: requests) =
      lastLocale (request.locale?.getD first) requests := by
  cases h : request.locale? with
  | some locale => simp [lastLocale, h, List.getLast?_cons]
  | none => simp [lastLocale, h]

/-- What comes back. -/
inductive Answer where
  | done
  | locale (locale : Locale)
  | catalog (catalog : Catalog)
  | text (text : String)
  | resolved (resolved : Resolved)
  | application (application : Application)

namespace Session

/-- The session after a request, and its answer. -/
def answer (session : Session) : Request → Traced (Session × Answer)
  | .setLocale locale => do return (← session.setLocale locale, .done)
  | .locale => pure (session, .locale session.catalog.locale)
  | .catalog => pure (session, .catalog session.catalog)
  | .text key args => do return (session, .text (← session.captioner.text key args))
  | .resolve key args => do return (session, .resolved (← session.captioner.resolve key args))
  | .setText widget key args => do
    return (session, .application (← session.captioner.apply widget key args))

/-- The session after a row of requests, and their answers. -/
def serve (session : Session) : List Request → Traced (Session × List Answer)
  | [] => pure (session, [])
  | request :: requests => do
    let (session, first) ← session.answer request
    let (session, rest) ← session.serve requests
    return (session, first :: rest)

/-- The session that a row of requests leaves behind. -/
def after (session : Session) (requests : List Request) : Session :=
  (session.serve requests).value.1

variable (session : Session) (request : Request) (requests later : List Request)

theorem after_cons :
    session.after (request :: requests) = (session.answer request).value.1.after requests := rfl

theorem serve_cons :
    session.serve (request :: requests) =
      { value :=
          (((session.answer request).value.1.serve requests).value.1,
            (session.answer request).value.2 ::
              ((session.answer request).value.1.serve requests).value.2)
        effects :=
          (session.answer request).effects ++
            ((session.answer request).value.1.serve requests).effects } := by
  simp [serve, bind, pure]

/-- Requests that follow others are answered by the session that those leave behind. -/
theorem serve_append :
    session.serve (requests ++ later) =
      { value :=
          (((session.after requests).serve later).value.1,
            (session.serve requests).value.2 ++ ((session.after requests).serve later).value.2)
        effects :=
          (session.serve requests).effects ++ ((session.after requests).serve later).effects } := by
  induction requests generalizing session with
  | nil => rfl
  | cons request requests ih =>
    rw [List.cons_append, serve_cons, ih, serve_cons, after_cons, List.cons_append,
      List.append_assoc]

/-- What a request reports is what its answer reports on the way. -/
theorem events_answer :
    (session.answer request).events =
      match request with
      | .setLocale locale => (session.setLocale locale).events
      | .locale | .catalog => []
      | .text key args => (session.captioner.text key args).events
      | .resolve key args => (session.captioner.resolve key args).events
      | .setText widget key args => (session.captioner.apply widget key args).events := by
  cases request <;> simp [answer]

/-- Only a change of the locale changes the session. -/
theorem value_answer :
    (session.answer request).value.1 =
      (request.locale?.map fun locale => (session.setLocale locale).value).getD session := by
  cases request <;> rfl

end Session

end Captions

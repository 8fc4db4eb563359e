import Captions.Session

/-!
# Only a configuration without problems opens a session

The check foresees all that can go wrong with the settings: once it has passed, the locale can be
read and every icon has its character. So either a session is opened, or the problems that the check
found are given back before anybody is asked for anything.

Results:
* `insertCodePoints_eq_error_iff`, `glyphTable_eq_error_iff`: icons are refused for the first of
  them without a character.
* `problems_eq_nil_iff`: what passes the check.
* `exists_prepare_of_problems_eq_nil`, `prepare_of_problems_ne_nil`: the settings can be put to use
  exactly when they pass the check.
* `ofConfig_gate`: the same for a whole session, with all that is asked for and reported.
-/

namespace Captions

/-! ## Icons by their code points -/

namespace GlyphTable

theorem insertCodePoints_cons (table : GlyphTable) (name : String) (codePoint : UInt32)
    (icons : List (String × UInt32)) :
    table.insertCodePoints ((name, codePoint) :: icons) =
      table.insertCodePoint name codePoint >>= fun table => table.insertCodePoints icons :=
  List.foldlM_cons

/-- Icons are refused for the first of them whose code point has no character. -/
theorem insertCodePoints_eq_error_iff {table : GlyphTable} {icons : List (String × UInt32)}
    {error : TextError} :
    table.insertCodePoints icons = .error error ↔
      (icons.find? fun icon => (Text.scalar? icon.2.toNat).isNone).map
        (fun icon => .invalidCodePoint icon.1 icon.2) = some error := by
  induction icons generalizing table with
  | nil => simp [insertCodePoints, pure, Except.pure]
  | cons icon icons ih =>
    obtain ⟨name, codePoint⟩ := icon
    rw [insertCodePoints_cons, insertCodePoint, List.find?_cons]
    dsimp only
    cases Text.scalar? codePoint.toNat with
    | some glyph => exact ih
    | none => simp [Bind.bind, Except.bind]

end GlyphTable

/-! ## The check -/

namespace Config

variable {config : Config}

theorem glyphTable_eq_error_iff {error : TextError} :
    config.glyphTable = .error error ↔
      config.unusableIcons.head?.map (fun icon => .invalidCodePoint icon.1 icon.2) =
        some error := by
  rw [glyphTable, GlyphTable.insertCodePoints_eq_error_iff, unusableIcons, List.head?_filter]

theorem problems_eq_nil_iff :
    config.problems = [] ↔
      config.hasBlankBaseName = false ∧ (∃ locale, config.locale = .ok locale) ∧
        config.tooltipSuffix ≠ "" ∧ isUsableScale config.iconScale = true ∧
          config.unusableIcons = [] := by
  rw [problems]
  cases config.locale with
  | ok locale => simp
  | error error => simp

theorem exists_glyphTable_of_unusableIcons_eq_nil (h : config.unusableIcons = []) :
    ∃ table, config.glyphTable = .ok table := by
  cases htable : config.glyphTable with
  | ok table => exact ⟨table, rfl⟩
  | error error =>
    rw [glyphTable_eq_error_iff, h] at htable
    contradiction

end Config

/-! ## Opening a session -/

namespace Session

variable {config : Config}

theorem prepare_of_problems_ne_nil (h : config.problems ≠ []) :
    prepare config = .error (.invalid config.problems) := by
  have hchecked : config.checked = .error (.invalid config.problems) := by
    unfold Config.checked
    split
    · contradiction
    · rfl
  rw [prepare, hchecked]
  rfl

theorem exists_prepare_of_problems_eq_nil (h : config.problems = []) :
    ∃ locale table, config.locale = .ok locale ∧ config.glyphTable = .ok table ∧
      prepare config = .ok (locale, table) := by
  obtain ⟨-, ⟨locale, hlocale⟩, -, -, hicons⟩ := Config.problems_eq_nil_iff.mp h
  obtain ⟨table, htable⟩ := Config.exists_glyphTable_of_unusableIcons_eq_nil hicons
  have hchecked : config.checked = .ok config := Config.checked_eq_ok_iff.mpr ⟨h, rfl⟩
  refine ⟨locale, table, hlocale, htable, ?_⟩
  simp only [prepare, hchecked, hlocale, htable, bind, Except.bind]
  rfl

theorem prepare_eq_ok_iff {locale : Locale} {table : GlyphTable} :
    prepare config = .ok (locale, table) ↔
      config.problems = [] ∧ config.locale = .ok locale ∧ config.glyphTable = .ok table := by
  by_cases h : config.problems = []
  · obtain ⟨l, t, hlocale, htable, hprepare⟩ := exists_prepare_of_problems_eq_nil h
    simp [h, hlocale, htable, hprepare]
  · simp [h, prepare_of_problems_ne_nil h]

/-- The session that a configuration opens. -/
theorem value_ofConfig_eq_ok_iff {store : Store} {host : FontHost} {session : Session} :
    (ofConfig config store host).value = .ok session ↔
      ∃ locale table, prepare config = .ok (locale, table) ∧
        (openWith table store host config.baseName locale).value.configure config = session := by
  rw [ofConfig]
  cases prepare config with
  | error error => simp
  | ok prepared =>
    obtain ⟨locale, table⟩ := prepared
    constructor
    · intro h
      exact ⟨locale, table, rfl, Except.ok.inj h⟩
    · rintro ⟨_, _, hprepared, rfl⟩
      cases hprepared
      rfl

theorem ofConfig_of_problems_ne_nil (h : config.problems ≠ []) (store : Store)
    (host : FontHost) :
    ofConfig config store host = pure (.error (.invalid config.problems)) := by
  rw [ofConfig, prepare_of_problems_ne_nil h]

theorem exists_ofConfig_of_problems_eq_nil (h : config.problems = []) (store : Store)
    (host : FontHost) : ∃ session, (ofConfig config store host).value = .ok session := by
  obtain ⟨locale, table, -, -, hprepare⟩ := exists_prepare_of_problems_eq_nil h
  rw [ofConfig, hprepare]
  exact ⟨_, rfl⟩

/-- **Only a configuration without problems opens a session.** Without problems, its locale and its
glyph table are there. With problems, these are the answer, and neither the store nor the host is
asked for anything and nothing is reported. -/
theorem ofConfig_gate (config : Config) (store : Store) (host : FontHost) :
    ((∃ session, (ofConfig config store host).value = .ok session) ↔ config.problems = []) ∧
      (config.problems = [] →
        (∃ locale, config.locale = .ok locale) ∧ ∃ table, config.glyphTable = .ok table) ∧
      (config.problems ≠ [] →
        ofConfig config store host = ⟨.error (.invalid config.problems), []⟩) := by
  refine ⟨⟨?_, ?_⟩, ?_, ?_⟩
  · rintro ⟨session, hsession⟩
    refine Classical.byContradiction fun h => ?_
    rw [ofConfig_of_problems_ne_nil h, Traced.value_pure] at hsession
    contradiction
  · exact fun h => exists_ofConfig_of_problems_eq_nil h store host
  · intro h
    obtain ⟨locale, table, hlocale, htable, -⟩ := exists_prepare_of_problems_eq_nil h
    exact ⟨⟨locale, hlocale⟩, table, htable⟩
  · exact fun h => ofConfig_of_problems_ne_nil h store host

end Session

end Captions

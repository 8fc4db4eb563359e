import Captions.Proofs.Config.Gate
import Captions.Proofs.Locale.Grammar
import Captions.Proofs.Text.ByteOrder

/-!
# The check foresees what will be refused

The locale and the glyph table are made from the settings after the check, each in its own way: the
tag is read again, and the icons are put into the table one by one until one of them is refused. The
check goes through all the icons and words their problems itself. Both agree: the locale is refused
exactly when the check names a problem of the locale, and the table exactly when it names one of an
icon, in the words of the first of these.

Results:
* `get?_of_insertCodePoints_of_mem`, `get?_of_insertCodePoints_of_not_mem`: a table into which icons
  were put has these and the ones from before.
* `kind_eq_iff`: the setting that a problem is about can be told from its wording.
* `problemsAbout_icon`, `problemsAbout_locale`: the problems of the icons and of the locale.
* `glyphTable_fails_iff`, `exists_of_glyphTable_eq_error`: when the table is refused, and for what.
* `foreseesRefusals`: the check against the locale and the glyph table.
-/

namespace Captions

/-! ## Tables with icons put in -/

namespace GlyphTable

variable {table result : GlyphTable} {name : String} {codePoint : UInt32}
  {icons : List (String × UInt32)}

theorem insertCodePoints_cons_eq_ok_iff :
    table.insertCodePoints ((name, codePoint) :: icons) = .ok result ↔
      ∃ glyph, Text.scalar? codePoint.toNat = some glyph ∧
        (table.insert name glyph).insertCodePoints icons = .ok result := by
  rw [insertCodePoints_cons, insertCodePoint]
  cases Text.scalar? codePoint.toNat with
  | some glyph => simp [Bind.bind, Except.bind]
  | none => simp [Bind.bind, Except.bind]

theorem get?_of_insertCodePoints_of_not_mem (h : table.insertCodePoints icons = .ok result)
    (hnot : ∀ icon ∈ icons, icon.1 ≠ name) : result.get? name = table.get? name := by
  induction icons generalizing table with
  | nil =>
    cases h
    rfl
  | cons icon icons ih =>
    obtain ⟨hne, hnot⟩ := List.forall_mem_cons.mp hnot
    obtain ⟨glyph, -, h⟩ := insertCodePoints_cons_eq_ok_iff.mp h
    rw [ih h hnot, get?_insert, if_neg hne]

theorem get?_of_insertCodePoints_of_mem (h : table.insertCodePoints icons = .ok result)
    (hnames : icons.Pairwise fun icon icon' => icon.1 ≠ icon'.1)
    (hmem : (name, codePoint) ∈ icons) :
    result.get? name = Text.scalar? codePoint.toNat := by
  induction icons generalizing table with
  | nil => contradiction
  | cons icon icons ih =>
    obtain ⟨hfirst, hnames⟩ := List.pairwise_cons.mp hnames
    obtain ⟨glyph, hglyph, h⟩ := insertCodePoints_cons_eq_ok_iff.mp h
    rcases List.mem_cons.mp hmem with rfl | hmem
    · -- no later icon has this name
      have hnot : ∀ icon ∈ icons, icon.1 ≠ name := fun icon hicon => (hfirst icon hicon).symm
      rw [get?_of_insertCodePoints_of_not_mem h hnot, get?_insert, if_pos rfl, hglyph]
    · exact ih h hnames hmem

end GlyphTable

namespace Config

/-! ## What a problem is about -/

/-- The setting that a problem is about. -/
inductive Problem.Kind where
  | baseName
  | locale
  | tooltipSuffix
  | iconScale
  | icon
deriving DecidableEq, Repr

namespace Problem

def kind : Problem → Kind
  | blankBaseName => .baseName
  | locale _ => .locale
  | emptyTooltipSuffix => .tooltipSuffix
  | iconScale _ => .iconScale
  | icon .. => .icon

/-- How the wording of a problem starts. -/
def Kind.opening : Kind → String
  | baseName => "base_name must not be empty"
  | locale => "invalid locale: "
  | tooltipSuffix => "tooltip_suffix must not be empty"
  | iconScale => "icon_scale must be finite and > 0, got "
  | icon => "icon '"

theorem Kind.eq_of_prefix_opening {k k' : Kind} (h : k.opening.toList <+: k'.opening.toList) :
    k = k' := by
  revert h
  cases k <;> cases k' <;> decide +kernel

/-- A tag that names no locale is the only thing that can be wrong with the locale. -/
theorem exists_message_eq {p : Problem}
    (hp : ∀ error, p = .locale error → ∃ tag, error = .invalidLocale tag) :
    ∃ rest, p.message = p.kind.opening ++ rest := by
  cases p with
  | blankBaseName => exact ⟨"", rfl⟩
  | locale error =>
    obtain ⟨tag, rfl⟩ := hp error rfl
    exact ⟨Text.quoted tag, rfl⟩
  | emptyTooltipSuffix => exact ⟨"", rfl⟩
  | iconScale scale => exact ⟨float32Text scale, rfl⟩
  | icon name codePoint =>
    refine ⟨name ++ "' has invalid code point " ++ TextError.codePointText codePoint, ?_⟩
    show "icon '" ++ name ++ "' has invalid code point " ++ TextError.codePointText codePoint =
      "icon '" ++ (name ++ "' has invalid code point " ++ TextError.codePointText codePoint)
    rw [String.append_assoc, String.append_assoc, String.append_assoc]

/-- The setting that a problem is about can be told from its wording. -/
theorem kind_eq_iff {p : Problem}
    (hp : ∀ error, p = .locale error → ∃ tag, error = .invalidLocale tag) {k : Kind} :
    p.kind = k ↔ k.opening.toList <+: p.message.toList := by
  obtain ⟨rest, hrest⟩ := exists_message_eq hp
  have hopening : p.kind.opening.toList <+: p.message.toList := by
    rw [hrest, String.toList_append]
    exact List.prefix_append ..
  constructor
  · rintro rfl
    exact hopening
  · intro hk
    rcases List.prefix_or_prefix_of_prefix hopening hk with h | h
    · exact Kind.eq_of_prefix_opening h
    · exact (Kind.eq_of_prefix_opening h).symm

/-- The check words an unusable icon as the refusal does. -/
theorem message_icon (name : String) (codePoint : UInt32) :
    (icon name codePoint).message = (TextError.invalidCodePoint name codePoint).message := rfl

end Problem

/-! ## The problems of a configuration -/

variable {config : Config}

/-- The problems about one setting. -/
def problemsAbout (config : Config) (k : Problem.Kind) : List Problem :=
  config.problems.filter fun p => p.kind = k

/-- One problem for each unusable icon. -/
def iconProblems (config : Config) : List Problem :=
  config.unusableIcons.map fun (name, codePoint) => .icon name codePoint

theorem kind_of_mem_iconProblems {p : Problem} (h : p ∈ config.iconProblems) : p.kind = .icon := by
  obtain ⟨icon, -, rfl⟩ := List.mem_map.mp h
  rfl

/-- The problems of icons come last. -/
theorem exists_problems_eq_append (config : Config) :
    ∃ others, (∀ p ∈ others, p.kind ≠ .icon) ∧
      config.problems = others ++ config.iconProblems := by
  refine ⟨_, fun p hp => ?_, rfl⟩
  simp only [List.mem_append] at hp
  rcases hp with ((hp | hp) | hp) | hp
  all_goals
    split at hp
    all_goals simp_all [Problem.kind]

theorem problemsAbout_icon (config : Config) :
    config.problemsAbout .icon = config.iconProblems := by
  obtain ⟨others, hothers, heq⟩ := exists_problems_eq_append config
  have hnone : (others.filter fun p => p.kind = .icon) = [] := by
    rw [List.filter_eq_nil_iff]
    simpa using hothers
  have hall : (config.iconProblems.filter fun p => p.kind = .icon) = config.iconProblems := by
    rw [List.filter_eq_self]
    exact fun p hp => decide_eq_true (kind_of_mem_iconProblems hp)
  rw [problemsAbout, heq, List.filter_append, hnone, hall, List.nil_append]

/-- The problem of the locale is what it is refused for. -/
theorem problemsAbout_locale (config : Config) :
    config.problemsAbout .locale =
      match config.locale with
      | .ok _ => []
      | .error error => [.locale error] := by
  have hicons : (config.iconProblems.filter fun p => p.kind = .locale) = [] := by
    rw [List.filter_eq_nil_iff]
    intro p hp
    rw [kind_of_mem_iconProblems hp]
    decide
  rw [problemsAbout, problems, ← iconProblems]
  simp only [List.filter_append, hicons]
  cases config.locale with
  | ok locale => split_ifs <;> simp [Problem.kind]
  | error error => split_ifs <;> simp [Problem.kind]

/-! ## Unusable icons -/

theorem mem_unusableIcons_iff {name : String} {codePoint : UInt32} :
    (name, codePoint) ∈ config.unusableIcons ↔
      config.icons[name]? = some codePoint ∧ ¬ codePoint.toNat.isValidChar := by
  rw [unusableIcons, List.mem_filter, Std.TreeMap.mem_toList_iff_getElem?_eq_some,
    Option.isNone_iff_eq_none, Text.scalar?_eq_none_iff]

theorem pairwise_toList_icons (config : Config) :
    config.icons.toList.Pairwise fun icon icon' => Text.bytes icon.1 < Text.bytes icon'.1 := by
  simp only [← Text.compare_eq_lt_iff]
  exact Std.TreeMap.ordered_keys_toList

theorem pairwise_unusableIcons (config : Config) :
    config.unusableIcons.Pairwise fun icon icon' => Text.bytes icon.1 < Text.bytes icon'.1 :=
  config.pairwise_toList_icons.filter _

/-- The icon `name` has no usable code point, and every other such icon comes after it. -/
structure IsFirstUnusable (config : Config) (name : String) (codePoint : UInt32) : Prop where
  getElem?_eq : config.icons[name]? = some codePoint
  not_isValidChar : ¬ codePoint.toNat.isValidChar
  bytes_lt : ∀ other codePoint', config.icons[other]? = some codePoint' →
    ¬ codePoint'.toNat.isValidChar → other ≠ name → Text.bytes name < Text.bytes other

theorem isFirstUnusable_of_unusableIcons_eq {name : String} {codePoint : UInt32}
    {rest : List (String × UInt32)} (h : config.unusableIcons = (name, codePoint) :: rest) :
    config.IsFirstUnusable name codePoint := by
  have hfirst : (name, codePoint) ∈ config.unusableIcons := by
    rw [h]
    exact List.mem_cons_self
  obtain ⟨hget, hinvalid⟩ := mem_unusableIcons_iff.mp hfirst
  refine ⟨hget, hinvalid, fun other codePoint' hother hinvalid' hne => ?_⟩
  have hmem := mem_unusableIcons_iff.mpr ⟨hother, hinvalid'⟩
  have hpairwise := config.pairwise_unusableIcons
  rw [h] at hmem hpairwise
  rcases List.mem_cons.mp hmem with heq | hrest
  · exact absurd (congrArg Prod.fst heq) hne
  · exact (List.pairwise_cons.mp hpairwise).1 _ hrest

/-! ## Refusals -/

theorem exists_mem_problems_iff {k : Problem.Kind} :
    (∃ p ∈ config.problems, p.kind = k) ↔ config.problemsAbout k ≠ [] := by
  rw [problemsAbout, ne_eq, List.filter_eq_nil_iff]
  simp

theorem glyphTable_fails_iff :
    (∃ error, config.glyphTable = .error error) ↔ ∃ p ∈ config.problems, p.kind = .icon := by
  rw [exists_mem_problems_iff, problemsAbout_icon, iconProblems]
  simp only [glyphTable_eq_error_iff]
  cases config.unusableIcons with
  | nil => simp
  | cons icon icons => simp

/-- The table is refused for the first unusable icon, in the words of the first problem of icons. -/
theorem exists_of_glyphTable_eq_error {error : TextError} (h : config.glyphTable = .error error) :
    ∃ name codePoint, error = .invalidCodePoint name codePoint ∧
      config.IsFirstUnusable name codePoint ∧
      (config.problemsAbout .icon).head?.map Problem.message = some error.message := by
  rw [glyphTable_eq_error_iff] at h
  cases hicons : config.unusableIcons with
  | nil =>
    rw [hicons] at h
    contradiction
  | cons icon icons =>
    obtain ⟨name, codePoint⟩ := icon
    rw [hicons] at h
    obtain rfl := Option.some.inj h
    refine ⟨name, codePoint, rfl, isFirstUnusable_of_unusableIcons_eq hicons, ?_⟩
    rw [problemsAbout_icon, iconProblems, hicons]
    exact congrArg some (Problem.message_icon name codePoint)

theorem locale_fails_iff :
    (∃ error, config.locale = .error error) ↔ ∃ p ∈ config.problems, p.kind = .locale := by
  rw [exists_mem_problems_iff, problemsAbout_locale]
  cases config.locale with
  | ok locale => simp
  | error error => simp

theorem map_message_problemsAbout_locale {error : TextError} (h : config.locale = .error error) :
    (config.problemsAbout .locale).map Problem.message = [error.message] := by
  rw [problemsAbout_locale, h]
  rfl

/-- Only a tag can be wrong with the locale. -/
theorem exists_of_locale_mem_problems {error : TextError} (h : .locale error ∈ config.problems) :
    ∃ tag, error = .invalidLocale tag := by
  have hmem : .locale error ∈ config.problemsAbout .locale :=
    List.mem_filter.mpr ⟨h, rfl⟩
  rw [problemsAbout_locale] at hmem
  cases hlocale : config.locale with
  | ok locale =>
    rw [hlocale] at hmem
    contradiction
  | error error' =>
    rw [hlocale] at hmem
    obtain rfl := Problem.locale.inj (List.mem_singleton.mp hmem)
    exact ⟨_, (Locale.parse_eq_error_iff.mp hlocale).2⟩

/-! ## The table that is not refused -/

theorem isValidChar_of_glyphTable_eq_ok {table : GlyphTable} (h : config.glyphTable = .ok table)
    {name : String} {codePoint : UInt32} (hicon : config.icons[name]? = some codePoint) :
    codePoint.toNat.isValidChar := by
  refine Classical.byContradiction fun hinvalid => ?_
  have hmem : .icon name codePoint ∈ config.iconProblems :=
    List.mem_map.mpr ⟨_, mem_unusableIcons_iff.mpr ⟨hicon, hinvalid⟩, rfl⟩
  rw [← problemsAbout_icon] at hmem
  obtain ⟨error, herror⟩ := glyphTable_fails_iff.mpr ⟨_, (List.mem_filter.mp hmem).1, rfl⟩
  rw [h] at herror
  contradiction

/-- An icon of the configuration has the character of its code point. -/
theorem exists_get?_of_glyphTable_eq_ok {table : GlyphTable} (h : config.glyphTable = .ok table)
    {name : String} {codePoint : UInt32} (hicon : config.icons[name]? = some codePoint) :
    ∃ glyph, table.get? name = some glyph ∧ glyph.toNat = codePoint.toNat := by
  have hnames : config.icons.toList.Pairwise fun icon icon' => icon.1 ≠ icon'.1 := by
    refine config.pairwise_toList_icons.imp fun {icon icon'} hlt heq => ?_
    rw [heq] at hlt
    exact List.lt_irrefl _ hlt
  have hget := GlyphTable.get?_of_insertCodePoints_of_mem h hnames
    (Std.TreeMap.mem_toList_iff_getElem?_eq_some.mpr hicon)
  cases hglyph : Text.scalar? codePoint.toNat with
  | some glyph => exact ⟨glyph, hget.trans hglyph, Text.toNat_of_scalar? hglyph⟩
  | none =>
    exact absurd (isValidChar_of_glyphTable_eq_ok h hicon) (Text.scalar?_eq_none_iff.mp hglyph)

/-- A name that the configuration does not mention has its bundled glyph, if there is one. -/
theorem get?_of_glyphTable_eq_ok_of_not_mem {table : GlyphTable}
    (h : config.glyphTable = .ok table) {name : String} (hicon : config.icons[name]? = none) :
    table.get? name = GlyphTable.materialDesign.get? name := by
  refine GlyphTable.get?_of_insertCodePoints_of_not_mem h ?_
  rintro ⟨other, codePoint⟩ hmem rfl
  rw [Std.TreeMap.mem_toList_iff_getElem?_eq_some, hicon] at hmem
  contradiction

/-! ## The check against what is refused -/

/-- What the check says of a configuration against its locale and its glyph table. -/
structure ForeseesRefusals (config : Config) : Prop where
  /-- What a problem is about shows in its wording. -/
  kind_eq_iff : ∀ p ∈ config.problems, ∀ k : Problem.Kind,
    p.kind = k ↔ k.opening.toList <+: p.message.toList
  /-- The problems of icons come behind all others, one for each icon of `unusableIcons`. -/
  exists_problems_eq : ∃ others, (∀ p ∈ others, p.kind ≠ .icon) ∧
    config.problems =
      others ++ config.unusableIcons.map fun (name, codePoint) => .icon name codePoint
  mem_unusableIcons_iff : ∀ name codePoint, (name, codePoint) ∈ config.unusableIcons ↔
    config.icons[name]? = some codePoint ∧ ¬ codePoint.toNat.isValidChar
  pairwise_unusableIcons :
    config.unusableIcons.Pairwise fun icon icon' => Text.bytes icon.1 < Text.bytes icon'.1
  glyphTable_fails_iff :
    (∃ error, config.glyphTable = .error error) ↔ ∃ p ∈ config.problems, p.kind = .icon
  /-- The table is refused for the first unusable icon, in the words of the first such problem. -/
  exists_of_glyphTable_eq_error : ∀ error, config.glyphTable = .error error →
    ∃ name codePoint, error = .invalidCodePoint name codePoint ∧
      config.IsFirstUnusable name codePoint ∧
      (config.problemsAbout .icon).head?.map Problem.message = some error.message
  locale_fails_iff :
    (∃ error, config.locale = .error error) ↔ ∃ p ∈ config.problems, p.kind = .locale
  /-- The locale is refused in the words of the one problem of the locale. -/
  map_message_problemsAbout_locale : ∀ error, config.locale = .error error →
    (config.problemsAbout .locale).map Problem.message = [error.message]
  exists_get? : ∀ table, config.glyphTable = .ok table → ∀ name codePoint,
    config.icons[name]? = some codePoint →
      ∃ glyph, table.get? name = some glyph ∧ glyph.toNat = codePoint.toNat
  /-- An icon that the configuration does not name is the bundled one, if there is one. -/
  get?_eq : ∀ table, config.glyphTable = .ok table → ∀ name, config.icons[name]? = none →
    table.get? name = GlyphTable.materialDesign.get? name

/-- **The check foresees what will be refused.** The glyph table is refused exactly when the check
names a problem of an icon, and then for the first of them; the locale is refused exactly when the
check names a problem of the locale; both in the words of the check. A table that is not refused has
the configured icons and the bundled ones besides. -/
theorem foreseesRefusals (config : Config) : config.ForeseesRefusals where
  kind_eq_iff p hp k := by
    refine Problem.kind_eq_iff ?_
    rintro error rfl
    exact exists_of_locale_mem_problems hp
  exists_problems_eq := exists_problems_eq_append config
  mem_unusableIcons_iff _ _ := mem_unusableIcons_iff
  pairwise_unusableIcons := pairwise_unusableIcons config
  glyphTable_fails_iff := glyphTable_fails_iff
  exists_of_glyphTable_eq_error _ := exists_of_glyphTable_eq_error
  locale_fails_iff := locale_fails_iff
  map_message_problemsAbout_locale _ := map_message_problemsAbout_locale
  exists_get? _ h _ _ := exists_get?_of_glyphTable_eq_ok h
  get?_eq _ h _ := get?_of_glyphTable_eq_ok_of_not_mem h

end Config

end Captions

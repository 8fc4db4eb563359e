import Captions.Template.Slot

/-!
# The shape of a slot

Which texts are slots, said without reading them from left to right. What stands between the marks
of a slot is told from itself alone, so a slot stays a slot whatever text comes behind it.

Results:
* `slot?_eq_some_iff`: a text begins with a slot exactly when it begins with the opening mark, an
  inner text of the right shape and the closing mark.
* `slot?_ne_none`: an opening mark opens a slot as soon as some closing mark follows on its line.
* `pieces_append_of_no_slot`: a stretch in which no slot begins is plain.
-/

namespace Captions.Template

/-! ## Lines -/

/-- No line ends within `cs`. -/
def OneLine (cs : List Char) : Prop := ∀ c ∈ cs, isLineBreak c = false

@[simp]
theorem oneLine_nil : OneLine [] := fun _ h => absurd h List.not_mem_nil

@[simp]
theorem oneLine_append {as bs : List Char} : OneLine (as ++ bs) ↔ OneLine as ∧ OneLine bs :=
  List.forall_mem_append

theorem any_isLineBreak_eq_false_iff {cs : List Char} :
    cs.any isLineBreak = false ↔ OneLine cs := by
  simp [OneLine]

/-! ## Closing marks -/

/-- No closing mark begins among other characters than its own. -/
theorem closing_infix_append_iff {u cs : List Char} (hu : '}' ∉ u) :
    closing <:+: u ++ cs ↔ closing <:+: cs := by
  induction u with
  | nil => rfl
  | cons c u ih =>
    rw [List.mem_cons, not_or] at hu
    rw [List.cons_append, List.infix_cons_iff, ih hu.2, or_iff_right]
    rintro ⟨w, hw⟩
    exact hu.1 (List.cons.inj hw).1

/-- A closing mark over the end of `u` and the start of another one ends in that other one. -/
theorem closing_infix_of_append_eq {u a b : List Char} (hu : u ≠ [])
    (h : u ++ (closing ++ a) = closing ++ b) : closing <:+: u ++ ['}'] := by
  rcases u with _ | ⟨c, _ | ⟨d, u⟩⟩
  · exact absurd rfl hu
  · obtain ⟨rfl, -⟩ : c = '}' ∧ _ := by simpa [closing] using h
    exact List.infix_rfl
  · obtain ⟨rfl, rfl, -⟩ : c = '}' ∧ d = '}' ∧ _ := by simpa [closing] using h
    exact (List.prefix_append closing (u ++ ['}'])).isInfix

/-- Where no closing mark begins within `before`, the first one comes right behind it. -/
theorem prefix_of_append_closing {before u a b : List Char} (h : ¬ closing <:+: before ++ ['}'])
    (heq : before ++ (closing ++ a) = u ++ (closing ++ b)) : before <+: u := by
  rcases List.append_eq_append_iff.mp heq with ⟨w, rfl, -⟩ | ⟨w, rfl, hw⟩
  · exact List.prefix_append before w
  · by_cases hne : w = []
    · simp [hne]
    · have := closing_infix_of_append_eq hne hw.symm
      exact absurd (this.trans ⟨u, [], by simp⟩) h

theorem splitClose?_append {before : List Char} (h : ¬ closing <:+: before ++ ['}'])
    (after : List Char) : splitClose? (before ++ (closing ++ after)) = some (before, after) := by
  induction before with
  | nil => rfl
  | cons c before ih =>
    have hrest : ¬ closing <:+: before ++ ['}'] := fun hin => h (hin.trans ⟨[c], [], by simp⟩)
    have hhead : ∀ rest, c = '}' → before ++ (closing ++ after) = '}' :: rest → False := by
      rintro rest rfl heq
      refine h (closing_infix_of_append_eq (a := after) (b := rest) (by simp) ?_)
      rw [List.cons_append, heq]
      rfl
    rw [List.cons_append, splitClose?.eq_2 c _ hhead, ih hrest]
    rfl

theorem splitClose?_eq_some_iff {cs before after : List Char} :
    splitClose? cs = some (before, after) ↔
      cs = before ++ (closing ++ after) ∧ ¬ closing <:+: before ++ ['}'] := by
  constructor
  · intro h
    refine ⟨by simpa using splitClose?_eq_append h, ?_⟩
    fun_induction splitClose? cs generalizing before with
    | case1 rest =>
      simp only [Option.some.injEq, Prod.mk.injEq] at h
      rw [← h.1]
      decide
    | case2 c rest hhead ih =>
      obtain ⟨⟨b, a⟩, hb, heq⟩ := Option.map_eq_some_iff.mp h
      simp only [Prod.mk.injEq] at heq
      obtain ⟨rfl, rfl⟩ := heq
      rw [List.cons_append, List.infix_cons_iff, not_or]
      refine ⟨?_, ih hb⟩
      -- A closing mark at `c` would have been found there.
      rintro ⟨w, hw⟩
      cases b with
      | nil =>
        obtain ⟨rfl, -⟩ : '}' = c ∧ _ := by simpa [closing] using hw
        exact hhead _ rfl (splitClose?_eq_append hb)
      | cons d b =>
        obtain ⟨rfl, rfl, -⟩ : '}' = c ∧ '}' = d ∧ _ := by simpa [closing] using hw
        exact hhead _ rfl (splitClose?_eq_append hb)
    | case3 => simp at h
  · rintro ⟨rfl, h⟩
    exact splitClose?_append h after

theorem splitClose?_ne_none (before after : List Char) :
    splitClose? (before ++ (closing ++ after)) ≠ none := by
  induction before with
  | nil => simp [closing, splitClose?]
  | cons c before ih =>
    intro h
    rw [List.cons_append] at h
    unfold splitClose? at h
    split at h
    · simp at h
    · simp_all
    · simp_all

/-! ## What stands between the marks -/

/-- The shape of what stands between the marks of a slot. -/
structure IsInner (inner : List Char) : Prop where
  ne_nil : inner ≠ []
  oneLine : OneLine inner
  /-- Behind the first character, no closing mark begins before the one of the slot itself. -/
  noClosing : ¬ closing <:+: inner.tail ++ ['}']

/-- What stands behind the first character of an inner text is of the shape of one too. -/
theorem IsInner.of_suffix_tail {inner u : List Char} (h : IsInner inner) (hne : u ≠ [])
    (hu : u <:+ inner.tail) : IsInner u := by
  refine ⟨hne, fun c hc => h.oneLine c (List.mem_of_mem_tail (hu.subset hc)), fun hin => ?_⟩
  obtain ⟨w, hw⟩ := (List.tail_suffix u).trans hu
  refine h.noClosing (hin.trans ⟨w, [], ?_⟩)
  rw [← hw, List.append_nil, List.append_assoc]

theorem inner?_eq_some_iff {cs inner rest : List Char} :
    inner? cs = some (inner, rest) ↔ cs = inner ++ (closing ++ rest) ∧ IsInner inner := by
  cases cs with
  | nil => simp [inner?, closing]
  | cons c cs =>
    constructor
    · intro h
      rw [inner?] at h
      split at h
      · next before after hsplit =>
        split at h
        · simp at h
        · next hbreak =>
          simp only [Option.some.injEq, Prod.mk.injEq] at h
          obtain ⟨rfl, rfl⟩ := h
          obtain ⟨rfl, hclose⟩ := splitClose?_eq_some_iff.mp hsplit
          have hline : OneLine (c :: before) :=
            any_isLineBreak_eq_false_iff.mp (Bool.eq_false_iff.mpr hbreak)
          exact ⟨rfl, by simp, hline, hclose⟩
      · simp at h
    · rintro ⟨heq, hne, hline, hclose⟩
      obtain ⟨d, tail, rfl⟩ := List.exists_cons_of_ne_nil hne
      rw [List.cons_append, List.cons.injEq] at heq
      obtain ⟨rfl, rfl⟩ := heq
      have hany : (c :: tail).any isLineBreak = false := any_isLineBreak_eq_false_iff.mpr hline
      rw [List.tail_cons] at hclose
      rw [inner?, splitClose?_append hclose rest]
      simp only [hany, Bool.false_eq_true, if_false]

theorem slot?_opening_append (opening cs : List Char) :
    slot? opening (opening ++ cs) = inner? cs := by
  rw [slot?, if_pos (by simp), List.drop_left]

theorem slot?_eq_some_iff {opening cs inner rest : List Char} :
    slot? opening cs = some (inner, rest) ↔
      cs = opening ++ (inner ++ (closing ++ rest)) ∧ IsInner inner := by
  constructor
  · intro h
    have heq : cs = opening ++ (inner ++ (closing ++ rest)) := by simpa using slot?_eq_append h
    rw [heq, slot?_opening_append] at h
    exact ⟨heq, (inner?_eq_some_iff.mp h).2⟩
  · rintro ⟨rfl, h⟩
    rw [slot?_opening_append]
    exact inner?_eq_some_iff.mpr ⟨rfl, h⟩

/-- An opening mark opens a slot as soon as, behind at least one character and on its line, some
closing mark follows. -/
theorem slot?_ne_none {text : List Char} (hne : text ≠ [])
    (hline : OneLine text) (opening rest : List Char) :
    slot? opening (opening ++ (text ++ (closing ++ rest))) ≠ none := by
  obtain ⟨c, tail, rfl⟩ := List.exists_cons_of_ne_nil hne
  obtain ⟨⟨before, after⟩, hsplit⟩ :=
    Option.ne_none_iff_exists'.mp (splitClose?_ne_none tail rest)
  obtain ⟨heq, hclose⟩ := splitClose?_eq_some_iff.mp hsplit
  -- The first closing mark comes no later than the given one, so it is on the same line.
  have hstart : c :: before <+: c :: tail := by
    rw [List.cons_prefix_cons]
    exact ⟨rfl, prefix_of_append_closing hclose heq.symm⟩
  have hinner : IsInner (c :: before) :=
    ⟨by simp, fun d hd => hline d (hstart.subset hd), hclose⟩
  have hslot : slot? opening (opening ++ (c :: tail ++ (closing ++ rest))) =
      some (c :: before, after) :=
    slot?_eq_some_iff.mpr ⟨by rw [List.cons_append, heq, List.cons_append], hinner⟩
  rw [hslot]
  exact Option.some_ne_none _

/-- An opening mark that is left open in front of a slot has the end of its line there. -/
theorem not_oneLine_of_no_slot {opening mid inner rest : List Char} (hopening : OneLine opening)
    (hinner : IsInner inner)
    (h : slot? opening (opening ++ mid ++ (opening ++ (inner ++ (closing ++ rest)))) = none) :
    ¬ OneLine mid := by
  intro hmid
  have hne : mid ++ (opening ++ inner) ≠ [] := by simp [hinner.ne_nil]
  have hline : OneLine (mid ++ (opening ++ inner)) :=
    oneLine_append.mpr ⟨hmid, oneLine_append.mpr ⟨hopening, hinner.oneLine⟩⟩
  refine slot?_ne_none hne hline opening rest ?_
  simpa using h

/-- Without a mark no slot begins. -/
theorem slot?_eq_none_of_not_prefix {opening v : List Char} (h : ¬ opening <+: v) :
    slot? opening v = none :=
  if_neg (mt List.isPrefixOf_iff_prefix.mp h)

theorem slot?_nil (opening : List Char) : slot? opening [] = none := by
  cases h : slot? opening [] with
  | none => rfl
  | some p =>
    have := length_rest_lt h
    simp at this

/-- A slot stays a slot when text is put behind it. -/
theorem slot?_append {opening cs inner rest : List Char}
    (h : slot? opening cs = some (inner, rest)) (more : List Char) :
    slot? opening (cs ++ more) = some (inner, rest ++ more) := by
  obtain ⟨rfl, hinner⟩ := slot?_eq_some_iff.mp h
  exact slot?_eq_some_iff.mpr ⟨by simp, hinner⟩

/-- Where no slot begins, none began before some text was put behind. -/
theorem slot?_eq_none_of_append {opening v more : List Char}
    (h : slot? opening (v ++ more) = none) : slot? opening v = none := by
  cases hslot : slot? opening v with
  | none => rfl
  | some found =>
    rw [slot?_append hslot] at h
    contradiction

/-- A slot that needs the text behind `v` reaches over the end of `v`. -/
theorem exists_of_slot?_append {opening v rest inner after : List Char}
    (hnone : slot? opening v = none) (h : slot? opening (v ++ rest) = some (inner, after)) :
    ∃ m, m ≠ [] ∧ v ++ m = opening ++ (inner ++ closing) ∧ rest = m ++ after := by
  obtain ⟨heq, hinner⟩ := slot?_eq_some_iff.mp h
  -- A slot that ends within `v` would have been found there.
  have hout : ∀ m, v ≠ opening ++ (inner ++ closing) ++ m := by
    rintro m rfl
    have hwithin : slot? opening (opening ++ (inner ++ closing) ++ m) = some (inner, m) :=
      slot?_eq_some_iff.mpr ⟨by simp, hinner⟩
    rw [hnone] at hwithin
    contradiction
  have heq' : v ++ rest = opening ++ (inner ++ closing) ++ after := by simp [heq]
  rcases List.append_eq_append_iff.mp heq' with ⟨m, hm, rfl⟩ | ⟨m, hm, -⟩
  · refine ⟨m, ?_, hm.symm, rfl⟩
    rintro rfl
    exact hout [] (by simpa using hm.symm)
  · exact absurd hm (hout m)

/-! ## Cutting -/

theorem pieces_nil (opening : List Char) : pieces opening [] = [] := by
  rw [pieces]
  split
  · next h => simp [slot?_nil] at h
  · rfl

/-- A stretch in which no slot begins joins the plain text behind it. -/
theorem pieces_append_of_no_slot {opening text rest : List Char}
    (h : ∀ v, v ≠ [] → v <:+ text → slot? opening (v ++ rest) = none) :
    pieces opening (text ++ rest) = text.foldr consPlain (pieces opening rest) := by
  induction text with
  | nil => rfl
  | cons c text ih =>
    have hhead : slot? opening (c :: (text ++ rest)) = none :=
      h (c :: text) (by simp) List.suffix_rfl
    rw [List.cons_append, pieces_of_no_slot hhead, List.foldr_cons,
      ih fun v hne hv => h v hne (hv.trans (List.suffix_cons c text))]

end Captions.Template

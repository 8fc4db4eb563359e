import Captions.Proofs.Icon.Covered
import Captions.Proofs.Icon.Independent
import Captions.Proofs.Template.SlotPlaces
import Captions.Template.Mark
import Mathlib.Data.List.DropRight

/-!
# Icon slots of one text in its two readings

A text can be read as a template and as a finished caption. Unless an icon slot without a name is
written in it, both readings find the same icon slots, and the second one finds some more: an
argument slot with an opening mark of an icon slot in it ends in an icon slot. Outside of the slots
of the template the caption has no icon slot.

Results:
* `slotPlaces_source`: the icon slots within a slot of a template.
* `iconSlots_eq_filterMap_slots`: the icon slots of a text, told from its slots as a template.
-/

namespace Captions.Template

open Text

/-! ## Icon slots within a slot -/

/-- The icon slot that a caption has where a template has the slot: an icon slot itself; of an
argument slot, what goes from the first opening mark of an icon slot in it to its end. -/
def Placed.iconSlot? (p : Placed) : Option Placed :=
  match p.token with
  | .literal _ => none
  | .icon _ => some p
  | .argument _ =>
    (splitMark? iconOpening p.token.source).map fun (before, after) =>
      ⟨p.start + byteSize before, .icon (after.rdrop closing.length)⟩

/-- What goes from an opening mark in an argument slot to the end of the slot is written like an
icon slot. -/
theorem exists_of_splitMark?_source {name before after : List Char}
    (h : splitMark? iconOpening (Token.argument name).source = some (before, after)) :
    ∃ inner, after = inner ++ closing ∧ opening ++ name = before ++ (iconOpening ++ inner) := by
  obtain ⟨hsource, -⟩ := (splitMark?_eq_some_iff (by decide)).mp h
  have hrear : iconOpening ++ after <:+ opening ++ name ++ closing := ⟨before, hsource.symm⟩
  have hne : iconOpening ++ after ≠ [] := by simp [iconOpening, opening]
  obtain ⟨inner, heq, -⟩ := exists_of_suffix_append_closing hne hrear (List.append_nil _)
  obtain rfl := List.append_cancel_left heq
  refine ⟨inner, rfl, (List.append_left_inj closing).mp (hsource.trans ?_)⟩
  rw [List.append_assoc, List.append_assoc]

theorem iconSlot?_of_splitMark? {name before inner : List Char}
    (h : splitMark? iconOpening (Token.argument name).source = some (before, inner ++ closing))
    (start : ℕ) :
    Placed.iconSlot? ⟨start, .argument name⟩ = some ⟨start + byteSize before, .icon inner⟩ := by
  unfold Placed.iconSlot?
  dsimp only
  rw [h, Option.map_some, List.rdrop_append_length]

/-- The icon slot of a slot begins in it and ends with it. -/
theorem bounds_of_iconSlot? {p q : Placed} (h : q.iconSlot? = some p) :
    q.start ≤ p.start ∧ p.stop = q.stop := by
  obtain ⟨start, t⟩ := q
  cases t with
  | literal text => simp [Placed.iconSlot?] at h
  | icon name =>
    obtain rfl : ⟨start, .icon name⟩ = p := Option.some_inj.mp h
    exact ⟨Nat.le_refl _, rfl⟩
  | argument name =>
    cases hsplit : splitMark? iconOpening (Token.argument name).source with
    | none => simp [Placed.iconSlot?, hsplit] at h
    | some parts =>
      obtain ⟨before, after⟩ := parts
      obtain ⟨inner, rfl, hparts⟩ := exists_of_splitMark?_source hsplit
      rw [iconSlot?_of_splitMark? hsplit] at h
      obtain rfl := Option.some_inj.mp h
      refine ⟨Nat.le_add_right _ _, ?_⟩
      simp only [Placed.stop, Token.source, hparts, byteSize_append]
      omega

section Slots

variable {cs : List Char} {t : Token}

/-- The opening mark of the icon slot reaches over the first character of the name of the argument
slot, so what is behind it has the shape that it needs. -/
theorem isInner_of_argument {name before inner : List Char} (ht : Token.argument name ∈ tokens cs)
    (hempty : ¬ (Token.icon []).source <:+: cs)
    (hparts : opening ++ name = before ++ (iconOpening ++ inner)) : IsInner inner := by
  have hname : IsInner name := isInner_of_mem_tokens ht (templateSlot_of_mem_tokens ht rfl)
  refine hname.of_suffix_tail ?_ ?_
  · rintro rfl
    refine hempty (List.IsInfix.trans ⟨before, [], ?_⟩ (source_infix_of_mem_tokens ht))
    simp [Token.source, hparts]
  · have hlength : inner.length ≤ name.tail.length := by
      have := congrArg List.length hparts
      simp only [iconOpening, opening, iconMark, List.length_append, List.length_cons,
        List.length_nil] at this
      rw [List.length_tail]
      omega
    have hinner : inner <:+ opening ++ name :=
      hparts ▸ (List.suffix_append iconOpening inner).trans (List.suffix_append before _)
    have htail : name.tail <:+ opening ++ name :=
      (List.tail_suffix name).trans (List.suffix_append opening name)
    exact List.suffix_of_suffix_length_le hinner htail hlength

theorem slot?_iconOpening_source {name : List Char} (ht : Token.icon name ∈ tokens cs)
    (hempty : ¬ (Token.icon []).source <:+: cs) :
    slot? iconOpening (Token.icon name).source = some (name, []) := by
  have hne : name ≠ [] := by
    rintro rfl
    exact hempty (source_infix_of_mem_tokens ht)
  have hname : IsIconName name := ⟨hne, isInner_of_mem_tokens ht (.icon name)⟩
  exact slot?_eq_some_iff.mpr ⟨by simp [Token.source], hname.isInner_self⟩

/-- The icon slots within a slot of a template: one or none. -/
theorem slotPlaces_source (ht : t ∈ tokens cs) (hslot : t.isSlot = true)
    (hempty : ¬ (Token.icon []).source <:+: cs) (offset : ℕ) :
    (slotPlaces iconOpening offset t.source).map (fun s => (⟨s.1, .icon s.2⟩ : Placed)) =
      (Placed.iconSlot? ⟨offset, t⟩).toList := by
  cases t with
  | literal text => simp [Token.isSlot] at hslot
  | icon name =>
    rw [slotPlaces_of_slot? _ (slot?_iconOpening_source ht hempty), slotPlaces_nil]
    rfl
  | argument name =>
    have hmark : iconOpening ≠ [] := by decide
    cases hsplit : splitMark? iconOpening (Token.argument name).source with
    | none =>
      have hno : ∀ v, v ≠ [] → v <:+ (Token.argument name).source → slot? iconOpening v = none := by
        refine fun v _ hv => slot?_eq_none_of_not_prefix fun hstart => ?_
        exact (splitMark?_eq_none_iff hmark).mp hsplit (hstart.isInfix.trans hv.isInfix)
      simp [slotPlaces_eq_nil offset hno, Placed.iconSlot?, hsplit]
    | some parts =>
      obtain ⟨before, after⟩ := parts
      obtain ⟨inner, rfl, hparts⟩ := exists_of_splitMark?_source hsplit
      obtain ⟨hsource, hfirst⟩ := (splitMark?_eq_some_iff hmark).mp hsplit
      have hno : ∀ v, v ≠ [] → v <:+ before →
          slot? iconOpening (v ++ (iconOpening ++ (inner ++ closing))) = none :=
        fun v hne hv => slot?_eq_none_of_not_prefix (hfirst v hne hv)
      have hinner : slot? iconOpening (iconOpening ++ (inner ++ closing)) = some (inner, []) :=
        slot?_eq_some_iff.mpr ⟨by simp, isInner_of_argument ht hempty hparts⟩
      rw [iconSlot?_of_splitMark? hsplit, hsource, slotPlaces_append_of_no_slot offset hno,
        slotPlaces_of_slot? _ hinner, slotPlaces_nil]
      rfl

/-! ## Icon slots of a text -/

/-- From each of its tokens on, a text read as a caption has the icon slots of its slots as a
template. -/
theorem slotPlaces_sources_tokens (hempty : ¬ (Token.icon []).source <:+: cs) :
    ∀ offset, (slotPlaces iconOpening offset (sources (tokens cs))).map
        (fun s => (⟨s.1, .icon s.2⟩ : Placed)) =
      (placed offset (tokens cs)).filterMap Placed.iconSlot? := by
  refine rear_induction (motive := fun bs => ∀ offset,
    (slotPlaces iconOpening offset (sources bs)).map (fun s => (⟨s.1, .icon s.2⟩ : Placed)) =
      (placed offset bs).filterMap Placed.iconSlot?) ?_ ?_
  · intro offset
    rw [show sources [] = [] from rfl, slotPlaces_nil]
    rfl
  · intro as t bs h hrest offset
    have hmem : t ∈ tokens cs := by simp [h]
    rw [show sources (t :: bs) = t.source ++ sources bs from rfl, placed]
    cases hslot : t.isSlot with
    | false =>
      obtain ⟨l, rfl⟩ : ∃ l, t = .literal l := by
        cases t <;> simp [Token.isSlot] at hslot ⊢
      have hno : ∀ v, v ≠ [] → v <:+ l → slot? iconOpening (v ++ sources bs) = none :=
        fun v hne hv => no_slot_in_literal h oneLine_iconMark hne hv fun hnil => by
          rw [hnil, sources, List.flatMap_nil]
      rw [show (Token.literal l).source = l from rfl, slotPlaces_append_of_no_slot offset hno,
        hrest, List.filterMap_cons_none rfl]
    | true =>
      have hparts : ∀ v, v ≠ [] → v <:+ t.source → slot? iconOpening v = none →
          slot? iconOpening (v ++ sources bs) = none := fun v hne hv hnone =>
        slot?_iconOpening_append hmem hslot hempty hne hv hnone (sources bs)
      rw [slotPlaces_append offset hparts, List.map_append, slotPlaces_source hmem hslot hempty,
        hrest, List.filterMap_cons]
      cases Placed.iconSlot? ⟨offset, t⟩ with
      | none => rfl
      | some p => rfl

/-- Of two tokens at different places, one ends before the other starts. -/
theorem stop_le_or_stop_le {offset : ℕ} {ts : List Token} {p q : Placed}
    (hp : p ∈ placed offset ts) (hq : q ∈ placed offset ts) (hne : p ≠ q) :
    p.stop ≤ q.start ∨ q.stop ≤ p.start := by
  have hpairs : (placed offset ts).Pairwise fun p q => p.stop ≤ q.start ∨ q.stop ≤ p.start :=
    (pairwise_placed offset ts).imp .inl
  have : Std.Symm fun p q : Placed => p.stop ≤ q.start ∨ q.stop ≤ p.start := ⟨fun _ _ => Or.symm⟩
  exact hpairs.forall hp hq hne

/-- **The two readings of a text agree on its icon slots**, if no icon slot without a name is
written in it. The icon slots of the caption are those of the template, in their places, and one in
each argument slot in which an opening mark of an icon slot stands, from there to the end of the
argument slot. None of them touches a literal of the template. -/
theorem iconSlots_eq_filterMap_slots (hempty : ¬ (Token.icon []).source <:+: cs) :
    iconSlots cs = (slots cs).filterMap Placed.iconSlot? ∧
      (∀ q ∈ slots cs, ∀ p, q.iconSlot? = some p → q.start ≤ p.start ∧ p.stop = q.stop) ∧
      ∀ p ∈ iconSlots cs, ∀ l ∈ placed 0 (tokens cs), l.token.isSlot = false →
        p.stop ≤ l.start ∨ l.stop ≤ p.start := by
  have hslots : iconSlots cs = (slots cs).filterMap Placed.iconSlot? := by
    have hplaces := slotPlaces_sources_tokens hempty 0
    rw [sources_tokens] at hplaces
    rw [iconSlots_eq_map, hplaces, slots, List.filterMap_filter]
    refine List.filterMap_congr fun p _ => ?_
    obtain ⟨start, t⟩ := p
    cases t <;> rfl
  refine ⟨hslots, fun q _ p h => bounds_of_iconSlot? h, fun p hp l hl hliteral => ?_⟩
  rw [hslots] at hp
  obtain ⟨q, hq, hqp⟩ := List.mem_filterMap.mp hp
  obtain ⟨hstart, hstop⟩ := bounds_of_iconSlot? hqp
  obtain ⟨hq, hslot⟩ := List.mem_filter.mp hq
  have hne : q ≠ l := by
    rintro rfl
    rw [hliteral] at hslot
    contradiction
  rcases stop_le_or_stop_le hq hl hne with h | h
  · exact .inl (hstop ▸ h)
  · exact .inr (h.trans hstart)

end Slots

/-- An icon slot, and an argument slot with the opening mark of one in its name. -/
theorem iconSlots_eq_filterMap_slots_nested :
    let cs := "{{n}}{{icon:undo}}{{b{{icon:x}}}}".toList
    ¬ (Token.icon []).source <:+: cs ∧
      iconSlots cs = [⟨5, .icon "undo".toList⟩, ⟨21, .icon ['x']⟩] ∧
      iconSlots cs = (slots cs).filterMap Placed.iconSlot? ∧
      (∀ q ∈ slots cs, ∀ p, q.iconSlot? = some p → q.start ≤ p.start ∧ p.stop = q.stop) ∧
      ∀ p ∈ iconSlots cs, ∀ l ∈ placed 0 (tokens cs), l.token.isSlot = false →
        p.stop ≤ l.start ∨ l.stop ≤ p.start :=
  ⟨by decide +kernel, by decide +kernel, iconSlots_eq_filterMap_slots (by decide +kernel)⟩

end Captions.Template

import Captions.Proofs.Template.Copies
import Captions.Proofs.Template.SlotPlaces

/-!
# The slots of a filled template

A value without an opening brace brings no slot into a template and disturbs none that is there. So
the slots of the filled text are those that no argument reaches, and they are read there as they
were read in the template.

Results:
* `slotInners_append`: the slots of a text in two parts, when no slot begins in the one and ends in
  the other.
* `no_slot_of_not_isKept`: no slot begins in what filling puts in place of a token.
* `slotInners_fill`: the slots of a filled template are those of the slots that it keeps.
* `filter_isSlot_tokens_bind`: for a template read as such, these are the kept slots themselves.
-/

namespace Captions.Template

/-! ## Slots of a text in parts -/

/-- What stands between the marks of the slot, if the piece is one. -/
def Piece.inner? : Piece → Option (List Char)
  | plain _ => none
  | slot inner => some inner

/-- What stands between the marks of the slots of a text, in order. -/
def slotInners (opening cs : List Char) : List (List Char) :=
  (pieces opening cs).filterMap Piece.inner?

section Parts

variable {opening : List Char}

/-- Wherever a text starts, its slots are the same. -/
theorem map_snd_slotPlaces (opening cs : List Char) (offset : ℕ) :
    (slotPlaces opening offset cs).map Prod.snd = slotInners opening cs := by
  rw [slotPlaces, slotInners]
  induction pieces opening cs generalizing offset with
  | nil => rfl
  | cons p ps ih =>
    cases p with
    | plain text => exact ih _
    | slot inner => exact congrArg (inner :: ·) (ih _)

@[simp]
theorem slotInners_nil : slotInners opening [] = [] := by
  rw [slotInners, pieces_nil]
  rfl

theorem slotInners_of_slot? {cs inner rest : List Char}
    (h : slot? opening cs = some (inner, rest)) :
    slotInners opening cs = inner :: slotInners opening rest := by
  rw [slotInners, pieces_of_slot? h]
  rfl

/-- Where no slot begins in `text`, all slots are behind it. -/
theorem slotInners_append_of_no_slot {text rest : List Char}
    (h : ∀ v, v ≠ [] → v <:+ text → slot? opening (v ++ rest) = none) :
    slotInners opening (text ++ rest) = slotInners opening rest := by
  rw [← map_snd_slotPlaces opening (text ++ rest) 0, slotPlaces_append_of_no_slot 0 h,
    map_snd_slotPlaces]

/-- The slots of a text in two parts are those of its parts when no slot begins in the first part
and ends in the second one. -/
theorem slotInners_append {text rest : List Char}
    (h : ∀ v, v ≠ [] → v <:+ text → slot? opening v = none → slot? opening (v ++ rest) = none) :
    slotInners opening (text ++ rest) = slotInners opening text ++ slotInners opening rest := by
  rw [← map_snd_slotPlaces opening (text ++ rest) 0, slotPlaces_append 0 h, List.map_append,
    map_snd_slotPlaces, map_snd_slotPlaces]

end Parts

/-! ## Slots of a template -/

/-- What stands between the braces of a slot; a literal has no braces. -/
def Token.inner : Token → List Char
  | literal _ => []
  | argument name => name
  | icon name => iconMark ++ name

theorem Token.source_of_isSlot {t : Token} (h : t.isSlot = true) :
    t.source = opening ++ (t.inner ++ closing) := by
  cases t with
  | literal text => simp [isSlot] at h
  | argument name => simp [source, inner]
  | icon name => simp [source, inner, iconOpening]

@[simp]
theorem Token.inner_ofInner (inner : List Char) : (ofInner inner).inner = inner := by
  unfold ofInner
  split
  · next h =>
    obtain ⟨name, rfl⟩ := List.isPrefixOf_iff_prefix.mp h
    rw [List.drop_left]
    rfl
  · rfl

/-- The slots of a template are told by what stands between their braces. -/
theorem templateSlot_of_mem_tokens {cs : List Char} {t : Token} (ht : t ∈ tokens cs)
    (hslot : t.isSlot = true) : TemplateSlot t.inner t := by
  obtain ⟨p, -, rfl⟩ := List.mem_map.mp ht
  cases p with
  | plain text => simp [Piece.toToken, Token.isSlot] at hslot
  | slot inner =>
    rw [templateSlot_iff, Piece.toToken, Token.inner_ofInner]
    rfl

/-- A slot of a template is read as a slot whatever stands behind it. -/
theorem slot?_source_append {cs : List Char} {t : Token} (ht : t ∈ tokens cs)
    (hslot : t.isSlot = true) (rest : List Char) :
    slot? opening (t.source ++ rest) = some (t.inner, rest) := by
  have hinner : IsInner t.inner := isInner_of_mem_tokens ht (templateSlot_of_mem_tokens ht hslot)
  rw [Token.source_of_isSlot hslot]
  exact slot?_eq_some_iff.mpr ⟨by simp, hinner⟩

/-- A slot of a template is the one that its inner text tells. -/
theorem ofInner_inner {cs : List Char} {t : Token} (ht : t ∈ tokens cs)
    (hslot : t.isSlot = true) : Token.ofInner t.inner = t :=
  ((templateSlot_iff _ t).mp (templateSlot_of_mem_tokens ht hslot)).symm

theorem filter_isSlot_tokens (cs : List Char) :
    (tokens cs).filter Token.isSlot = (slotInners opening cs).map Token.ofInner := by
  rw [tokens, slotInners]
  induction pieces opening cs with
  | nil => rfl
  | cons p ps ih =>
    cases p with
    | plain text => exact ih
    | slot inner =>
      have hslot : (Piece.slot inner).toToken.isSlot = true := makesTokens_toToken.isSlot_slot inner
      rw [List.map_cons, List.filter_cons_of_pos hslot, ih]
      rfl

/-! ## What filling keeps -/

/-- Whether filling leaves a slot as written when the names `filled` have values. -/
def Token.isKept (filled : List (List Char)) : Token → Bool
  | literal _ => false
  | argument name => !filled.contains name
  | icon _ => true

section Filling

variable {cs : List Char} {values : List (List Char × List Char)} {t : Token}

theorem Token.isSlot_of_isKept {filled : List (List Char)} (h : t.isKept filled = true) :
    t.isSlot = true := by
  cases t with
  | literal text => exact h
  | argument name => rfl
  | icon name => rfl

theorem isSome_lookup (values : List (List Char × List Char)) (name : List Char) :
    (values.lookup name).isSome = (values.map Prod.fst).contains name := by
  rw [Bool.eq_iff_iff, List.lookup_isSome_iff]
  simp

theorem lookup_eq_none_of_isKept {name : List Char}
    (h : (Token.argument name).isKept (values.map Prod.fst) = true) :
    values.lookup name = none := by
  rw [Token.isKept, ← isSome_lookup] at h
  simpa using h

theorem Token.fill_of_isKept (h : t.isKept (values.map Prod.fst) = true) :
    t.fill values = t.source := by
  cases t with
  | literal text => rfl
  | icon name => rfl
  | argument name => rw [fill, lookup_eq_none_of_isKept h, Option.getD_none]

/-- A token that filling does not keep is a literal or an argument slot with a value. -/
theorem Token.eq_literal_or_mem_of_not_isKept (h : t.isKept (values.map Prod.fst) = false) :
    (∃ text, t = .literal text) ∨
      ∃ name value, t = .argument name ∧ values.lookup name = some value ∧
        (name, value) ∈ values := by
  cases t with
  | literal text => exact .inl ⟨text, rfl⟩
  | icon name => simp [isKept] at h
  | argument name =>
    rw [isKept, ← isSome_lookup, Bool.not_eq_false', Option.isSome_iff_exists] at h
    obtain ⟨value, hvalue⟩ := h
    obtain ⟨l, r, heq, -⟩ := List.lookup_eq_some_iff.mp hvalue
    exact .inr ⟨name, value, rfl, hvalue, by simp [heq]⟩

/-- **No slot begins in what filling puts in place of a token that it does not keep**, if no value
has an opening brace. -/
theorem no_slot_of_not_isKept {mark v : List Char} {as bs : List Token}
    (hvalues : ∀ p ∈ values, '{' ∉ p.2) (h : tokens cs = as ++ t :: bs)
    (ht : t.isKept (values.map Prod.fst) = false) (hmark : OneLine mark)
    (hne : v ≠ []) (hv : v <:+ t.fill values) :
    slot? (opening ++ mark) (v ++ bs.flatMap (Token.fill values)) = none := by
  rcases Token.eq_literal_or_mem_of_not_isKept ht with
    ⟨text, rfl⟩ | ⟨name, value, rfl, hvalue, hmem⟩
  · exact no_slot_in_literal h hmark hne hv fun hnil => by rw [hnil, List.flatMap_nil]
  · rw [Token.fill, hvalue, Option.getD_some] at hv
    by_contra hsome
    obtain ⟨⟨inner, rest⟩, hslot⟩ := Option.ne_none_iff_exists'.mp hsome
    obtain ⟨c, w, rfl⟩ := List.exists_cons_of_ne_nil hne
    have hbrace : c = '{' := (List.cons.inj (slot?_eq_some_iff.mp hslot).1).1
    exact hvalues _ hmem (hv.subset (by simp [hbrace]))

/-- The slots of a filled template are those within the slots that filling keeps, if each of these
is read as it was written whatever stands behind it. -/
theorem slotInners_fill {mark : List Char} (hmark : OneLine mark)
    (hvalues : ∀ p ∈ values, '{' ∉ p.2)
    (hslots : ∀ t ∈ tokens cs, t.isSlot = true → ∀ rest,
      slotInners (opening ++ mark) (t.source ++ rest) =
        slotInners (opening ++ mark) t.source ++ slotInners (opening ++ mark) rest) :
    slotInners (opening ++ mark) ((tokens cs).flatMap (Token.fill values)) =
      ((tokens cs).filter (Token.isKept (values.map Prod.fst))).flatMap fun t =>
        slotInners (opening ++ mark) t.source := by
  -- From each token of the template on, what is filled has the slots of what is kept.
  refine rear_induction (motive := fun bs =>
    slotInners (opening ++ mark) (bs.flatMap (Token.fill values)) =
      (bs.filter (Token.isKept (values.map Prod.fst))).flatMap fun t =>
        slotInners (opening ++ mark) t.source) slotInners_nil fun as t bs h hrest => ?_
  rw [List.flatMap_cons]
  cases hkept : t.isKept (values.map Prod.fst) with
  | false =>
    have hno : ∀ v, v ≠ [] → v <:+ t.fill values →
        slot? (opening ++ mark) (v ++ bs.flatMap (Token.fill values)) = none :=
      fun v hne hv => no_slot_of_not_isKept hvalues h hkept hmark hne hv
    rw [slotInners_append_of_no_slot hno, List.filter_cons_of_neg (by simp [hkept]), hrest]
  | true =>
    have hmem : t ∈ tokens cs := by simp [h]
    rw [Token.fill_of_isKept hkept, hslots t hmem (Token.isSlot_of_isKept hkept),
      List.filter_cons_of_pos hkept, List.flatMap_cons, hrest]

end Filling

/-! ## Filled templates -/

theorem map_fst_zip_eq_take (names args : List (List Char)) :
    (names.zip args).map Prod.fst = names.take args.length := by
  induction names generalizing args with
  | nil => simp
  | cons name names ih =>
    cases args with
    | nil => simp
    | cons arg args => simp [ih]

theorem slotInners_bind (mark : List Char) (hmark : OneLine mark) {template : String}
    {args : List String} (hargs : ∀ arg ∈ args, '{' ∉ arg.toList)
    (hslots : ∀ t ∈ tokens template.toList, t.isSlot = true → ∀ rest,
      slotInners (opening ++ mark) (t.source ++ rest) =
        slotInners (opening ++ mark) t.source ++ slotInners (opening ++ mark) rest) :
    slotInners (opening ++ mark) (bind template args).value.toList =
      ((tokens template.toList).filter
        (Token.isKept ((argumentNames (tokens template.toList)).take args.length))).flatMap
          fun t => slotInners (opening ++ mark) t.source := by
  have hvalues : ∀ p ∈ (argumentNames (tokens template.toList)).zip (args.map String.toList),
      '{' ∉ p.2 := by
    intro p hp
    obtain ⟨arg, harg, heq⟩ := List.mem_map.mp (List.of_mem_zip hp).2
    exact heq ▸ hargs arg harg
  rw [toList_value_bind, fill, slotInners_fill hmark hvalues hslots, map_fst_zip_eq_take,
    List.length_map]

theorem slotInners_source_append {cs : List Char} {t : Token} (ht : t ∈ tokens cs)
    (hslot : t.isSlot = true) (rest : List Char) :
    slotInners opening (t.source ++ rest) = t.inner :: slotInners opening rest :=
  slotInners_of_slot? (slot?_source_append ht hslot rest)

theorem slotInners_source {cs : List Char} {t : Token} (ht : t ∈ tokens cs)
    (hslot : t.isSlot = true) : slotInners opening t.source = [t.inner] := by
  have happend := slotInners_source_append ht hslot []
  rwa [List.append_nil, slotInners_nil] at happend

/-- **Values without opening braces leave the slots of a template alone.** Read as a template, the
filled text has the icon slots of the template and the argument slots that no argument reached, in
their order, and no other slots. -/
theorem filter_isSlot_tokens_bind (template : String) (args : List String)
    (hargs : ∀ arg ∈ args, '{' ∉ arg.toList) :
    (tokens (bind template args).value.toList).filter Token.isSlot =
      (tokens template.toList).filter
        (Token.isKept ((argumentNames (tokens template.toList)).take args.length)) := by
  have hslots : ∀ t ∈ tokens template.toList, t.isSlot = true → ∀ rest,
      slotInners (opening ++ []) (t.source ++ rest) =
        slotInners (opening ++ []) t.source ++ slotInners (opening ++ []) rest := by
    intro t ht hslot rest
    rw [List.append_nil, slotInners_source_append ht hslot, slotInners_source ht hslot]
    rfl
  have hinners := slotInners_bind [] oneLine_nil hargs hslots
  rw [List.append_nil] at hinners
  rw [filter_isSlot_tokens, hinners, List.map_flatMap]
  -- Each slot that is kept is told by its inner text alone.
  refine (List.flatMap_congr fun t ht => ?_).trans (List.flatMap_singleton' _)
  obtain ⟨hmem, hkept⟩ := List.mem_filter.mp ht
  have hslot := Token.isSlot_of_isKept hkept
  rw [slotInners_source hmem hslot, List.map_singleton]
  rw [ofInner_inner hmem hslot]

/-- A value of closing braces and a line end, behind it a slot with a brace in its name. -/
theorem filter_isSlot_tokens_bind_braces :
    (∀ arg ∈ ["\x7d\x7d\n"], '{' ∉ arg.toList) ∧
      (tokens (bind "{{a}}{{b{}}}{{icon:}}{{a}}" ["\x7d\x7d\n"]).value.toList).filter
          Token.isSlot =
        [.argument ['b', '{'], .icon []] :=
  ⟨by decide,
    (filter_isSlot_tokens_bind "{{a}}{{b{}}}{{icon:}}{{a}}" ["\x7d\x7d\n"] (by decide)).trans
      (by decide +kernel)⟩

end Captions.Template

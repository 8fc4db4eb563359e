import Captions.Proofs.Template.Filled
import Captions.Proofs.Template.Positional

/-!
# Filling by replacement

Filling told as an edit of the text: slot after slot, wherever the text of the slot stands in what
has become of the template, the next argument takes its place. Among values and slot names without
opening braces, the text of a slot stands where the slot does and nowhere else.

Results:
* `replaceAll_append_self`, `replaceAll_append_of_not_prefix`: what replacing does at an occurrence
  and elsewhere.
* `replaceAll_fill`: replacing the text of one slot gives its name a value.
* `replaceInTurn_fill`: replacing the texts of a row of slots gives all their names values.
* `bind_eq_replaceInTurn`: filling is replacing slot after slot.
-/

namespace Captions.Template

/-! ## Replacing in a text -/

/-- The text with `new` for every occurrence of `pattern`, which are taken from left to right and do
not overlap; `pattern` is not empty. -/
def replaceAll (pattern new : List Char) : List Char → List Char
  | [] => []
  | c :: cs =>
    if pattern.isPrefixOf (c :: cs) then
      new ++ replaceAll pattern new (cs.drop (pattern.length - 1))
    else c :: replaceAll pattern new cs
termination_by cs => cs.length
decreasing_by
  · rw [List.length_drop, List.length_cons]
    omega
  · exact Nat.lt_succ_self cs.length

/-- The text with the first of `slots` replaced by the first of `args` everywhere, then in what this
gives the second of `slots` by the second of `args`, as long as there are arguments. -/
def replaceInTurn : List (List Char) → List (List Char) → List Char → List Char
  | slot :: slots, arg :: args, cs => replaceInTurn slots args (replaceAll slot arg cs)
  | _, _, cs => cs

theorem replaceAll_append_self {pattern : List Char} (hne : pattern ≠ []) (new rest : List Char) :
    replaceAll pattern new (pattern ++ rest) = new ++ replaceAll pattern new rest := by
  obtain ⟨c, tail, rfl⟩ := List.exists_cons_of_ne_nil hne
  rw [List.cons_append, replaceAll, if_pos (by simp)]
  simp

/-- A stretch in which no occurrence begins stays as it is. -/
theorem replaceAll_append_of_not_prefix {pattern text rest : List Char} (new : List Char)
    (h : ∀ v, v ≠ [] → v <:+ text → ¬ pattern <+: v ++ rest) :
    replaceAll pattern new (text ++ rest) = text ++ replaceAll pattern new rest := by
  induction text with
  | nil => rfl
  | cons c text ih =>
    have hhead : ¬ pattern <+: c :: (text ++ rest) := h (c :: text) (by simp) List.suffix_rfl
    rw [List.cons_append, replaceAll, if_neg (by simpa using hhead), List.cons_append,
      ih fun v hne hv => h v hne (hv.trans (List.suffix_cons c text))]

/-- Of two occurrences that overlap the left one counts. -/
example : replaceAll ['a', 'a'] ['b'] ['a', 'a', 'a'] = ['b', 'a'] := by
  decide +kernel

/-! ## Where the text of a slot stands -/

section Slots

variable {cs name : List Char} {values : List (List Char × List Char)} {t : Token}

/-- Where the text of an argument slot stands, a slot begins. -/
theorem slot?_of_source_prefix {text : List Char} (hname : Token.argument name ∈ tokens cs)
    (h : (Token.argument name).source <+: text) :
    ∃ rest, slot? opening text = some (name, rest) := by
  obtain ⟨rest, rfl⟩ := h
  exact ⟨rest, slot?_source_append hname rfl rest⟩

/-- The text of an argument slot begins nowhere in another slot without opening braces within. -/
theorem not_source_prefix_of_ne {v : List Char} (hname : Token.argument name ∈ tokens cs)
    (ht : t ∈ tokens cs) (hslot : t.isSlot = true) (hne : t ≠ .argument name)
    (hbrace : '{' ∉ t.inner) (hv : v ≠ []) (hsuffix : v <:+ t.source) (rest : List Char) :
    ¬ (Token.argument name).source <+: v ++ rest := by
  intro hprefix
  have hsource : t.source = '{' :: '{' :: (t.inner ++ closing) := Token.source_of_isSlot hslot
  have hinner : '{' ∉ t.inner ++ closing := by simp [hbrace, closing]
  rw [hsource, List.suffix_cons_iff, List.suffix_cons_iff] at hsuffix
  rcases hsuffix with rfl | rfl | hsuffix
  · -- Both would be the slot that begins here.
    obtain ⟨rest', hslot'⟩ := slot?_of_source_prefix hname hprefix
    rw [← hsource, slot?_source_append ht hslot] at hslot'
    obtain rfl : t.inner = name := by simp_all
    exact hne ((ofInner_inner ht hslot).symm.trans (ofInner_inner hname rfl))
  · obtain ⟨after, hafter⟩ := hprefix
    obtain ⟨c, tail, hcons⟩ : ∃ c tail, t.inner ++ closing = c :: tail :=
      List.exists_cons_of_ne_nil (by simp [closing])
    rw [hcons] at hafter hinner
    obtain ⟨rfl, -⟩ : '{' = c ∧ _ := by simpa [Token.source, opening] using hafter
    simp at hinner
  · obtain ⟨after, hafter⟩ := hprefix
    obtain ⟨c, w, rfl⟩ := List.exists_cons_of_ne_nil hv
    obtain ⟨rfl, -⟩ : '{' = c ∧ _ := by simpa [Token.source, opening] using hafter
    exact hinner (hsuffix.subset (by simp))

/-- More values change nothing where the first value of a name is shown. -/
theorem Token.fill_append_of_not_isKept (h : t.isKept (values.map Prod.fst) = false)
    (more : List (List Char × List Char)) : t.fill (values ++ more) = t.fill values := by
  rcases eq_literal_or_mem_of_not_isKept h with ⟨text, rfl⟩ | ⟨name, value, rfl, hvalue, -⟩
  · rfl
  · rw [fill, fill, List.lookup_append, hvalue, Option.some_or]

/-- A value for one more name shows in the slots of this name that have none yet. -/
theorem Token.fill_append_singleton (h : t.isKept (values.map Prod.fst) = true)
    (name arg : List Char) :
    t.fill (values ++ [(name, arg)]) = if t = .argument name then arg else t.source := by
  cases t with
  | literal text => simp [isKept] at h
  | icon name' => rfl
  | argument name' =>
    rw [fill, List.lookup_append, lookup_eq_none_of_isKept h, Option.none_or]
    by_cases heq : name' = name
    · simp [heq]
    · have hne : (name' == name) = false := by simpa using heq
      simp [List.lookup_cons, hne, heq]

/-- **Replacing the text of a slot everywhere gives its name a value**, unless the name has one, in
which case there is nothing left to replace. -/
theorem replaceAll_fill {arg : List Char} (hname : Token.argument name ∈ tokens cs)
    (hvalues : ∀ p ∈ values, '{' ∉ p.2) (hbrace : ∀ t ∈ tokens cs, '{' ∉ t.inner) :
    replaceAll (Token.argument name).source arg ((tokens cs).flatMap (Token.fill values)) =
      (tokens cs).flatMap (Token.fill (values ++ [(name, arg)])) := by
  refine rear_induction (motive := fun bs =>
    replaceAll (Token.argument name).source arg (bs.flatMap (Token.fill values)) =
      bs.flatMap (Token.fill (values ++ [(name, arg)]))) ?_ fun as t bs h hrest => ?_
  · rw [List.flatMap_nil, List.flatMap_nil, replaceAll]
  rw [List.flatMap_cons, List.flatMap_cons, ← hrest]
  cases hkept : t.isKept (values.map Prod.fst) with
  | false =>
    rw [Token.fill_append_of_not_isKept hkept]
    refine replaceAll_append_of_not_prefix arg fun v hne hv hprefix => ?_
    obtain ⟨rest, hslot⟩ := slot?_of_source_prefix hname hprefix
    have hno : slot? (opening ++ []) (v ++ bs.flatMap (Token.fill values)) = none :=
      no_slot_of_not_isKept hvalues h hkept oneLine_nil hne hv
    rw [List.append_nil, hslot] at hno
    exact absurd hno (Option.some_ne_none _)
  | true =>
    rw [Token.fill_of_isKept hkept, Token.fill_append_singleton hkept]
    split
    · next heq =>
      subst heq
      exact replaceAll_append_self (by simp [Token.source, opening]) arg _
    · next hne =>
      have ht : t ∈ tokens cs := by simp [h]
      have hslot := Token.isSlot_of_isKept hkept
      exact replaceAll_append_of_not_prefix arg fun v hv hsuffix =>
        not_source_prefix_of_ne hname ht hslot hne (hbrace t ht) hv hsuffix _

end Slots

/-! ## Replacing slot after slot -/

theorem flatMap_fill_nil (ts : List Token) : ts.flatMap (Token.fill []) = sources ts := by
  refine List.flatMap_congr fun t _ => ?_
  cases t <;> rfl

theorem replaceInTurn_fill {cs : List Char} {names args : List (List Char)}
    {values : List (List Char × List Char)}
    (hnames : ∀ name ∈ names, Token.argument name ∈ tokens cs)
    (hargs : ∀ arg ∈ args, '{' ∉ arg) (hvalues : ∀ p ∈ values, '{' ∉ p.2)
    (hbrace : ∀ t ∈ tokens cs, '{' ∉ t.inner) :
    replaceInTurn (names.map fun name => (Token.argument name).source) args
        ((tokens cs).flatMap (Token.fill values)) =
      (tokens cs).flatMap (Token.fill (values ++ names.zip args)) := by
  induction names generalizing args values with
  | nil => simp [replaceInTurn]
  | cons name names ih =>
    cases args with
    | nil => simp [replaceInTurn]
    | cons arg args =>
      rw [List.forall_mem_cons] at hnames hargs
      have hvalues' : ∀ p ∈ values ++ [(name, arg)], '{' ∉ p.2 := by
        rw [List.forall_mem_append, List.forall_mem_singleton]
        exact ⟨hvalues, hargs.1⟩
      rw [List.map_cons, replaceInTurn, replaceAll_fill hnames.1 hvalues hbrace,
        ih hnames.2 hargs.2 hvalues', List.zip_cons_cons, List.append_assoc]
      rfl

/-- **Filling is replacing slot after slot.** If no name of a slot and no argument has an opening
brace, the filled template is what comes of replacing the text of each argument slot in turn,
wherever it stands by then, by the next argument. -/
theorem bind_eq_replaceInTurn (template : String) (args : List String)
    (hbrace : ∀ t ∈ tokens template.toList, '{' ∉ t.inner)
    (hargs : ∀ arg ∈ args, '{' ∉ arg.toList) :
    (bind template args).value.toList =
      replaceInTurn (argumentSources (tokens template.toList)) (args.map String.toList)
        template.toList := by
  have hnames : ∀ name ∈ argumentNames (tokens template.toList),
      Token.argument name ∈ tokens template.toList := fun _ => mem_argumentNames_iff.mp
  have hargs' : ∀ arg ∈ args.map String.toList, '{' ∉ arg := List.forall_mem_map.mpr hargs
  have hvalues : ∀ p ∈ ([] : List (List Char × List Char)), '{' ∉ p.2 := by simp
  have hfill := replaceInTurn_fill hnames hargs' hvalues hbrace
  rw [flatMap_fill_nil, sources_tokens, List.nil_append] at hfill
  rw [toList_value_bind, argumentSources_eq, hfill, fill]

/-- A repeated slot, whose second argument finds nothing left to replace, an empty value, and a slot
that no argument reaches. -/
theorem bind_eq_replaceInTurn_repeated :
    (∀ t ∈ tokens "{{a}}{{icon:a}}({{b}}){{a}}{{c}}".toList, '{' ∉ t.inner) ∧
      (∀ arg ∈ ["\x7d\x7d\n", "", "x"], '{' ∉ arg.toList) ∧
      (bind "{{a}}{{icon:a}}({{b}}){{a}}{{c}}" ["\x7d\x7d\n", "", "x"]).value.toList =
        "\x7d\x7d\n{{icon:a}}()\x7d\x7d\n{{c}}".toList :=
  ⟨by decide +kernel, by decide,
    (bind_eq_replaceInTurn "{{a}}{{icon:a}}({{b}}){{a}}{{c}}" ["\x7d\x7d\n", "", "x"]
      (by decide +kernel) (by decide)).trans (by decide +kernel)⟩

end Captions.Template

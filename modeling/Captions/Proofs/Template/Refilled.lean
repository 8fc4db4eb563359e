import Captions.Proofs.Template.Replacement
import Mathlib.Data.List.Nodup

/-!
# Filling in two steps

What some arguments leave of a template is a template again. Its argument slots are those that no
argument has reached yet, in their order, so more arguments go on where the first ones stopped, and
all of them could have been given at once.

Results:
* `flatMap_tokens_fill`: whatever is read off the tokens of a text, a filled template is read like
  the template with literals in place of the slots that have a value.
* `fill_values_append`: filling with some values and then with more is filling with all of them.
* `argumentNames_fill`: the slots left over are those of the names without a value.
* `bind_bind`: filling in two steps is filling once.
-/

namespace Captions.Template

/-! ## Reading token by token -/

section Reading

variable {α : Type} {read : Token → List α}
  (hread : ∀ as bs, read (.literal (as ++ bs)) = read (.literal as) ++ read (.literal bs))

include hread

theorem read_literal_nil : read (.literal []) = [] := by
  have htwice := hread [] []
  rw [List.append_nil] at htwice
  exact List.append_right_eq_self.mp htwice.symm

theorem flatMap_map_consPlain (c : Char) (ps : List Piece) :
    ((consPlain c ps).map Piece.toToken).flatMap read =
      read (.literal [c]) ++ (ps.map Piece.toToken).flatMap read := by
  unfold consPlain
  split
  · next text ps =>
    show read (.literal ([c] ++ text)) ++ _ = _ ++ (read (.literal text) ++ _)
    rw [hread, List.append_assoc]
  · rfl

/-- A stretch in which no slot begins is read like a literal. -/
theorem flatMap_tokens_append_of_no_slot {text rest : List Char}
    (h : ∀ v, v ≠ [] → v <:+ text → slot? opening (v ++ rest) = none) :
    (tokens (text ++ rest)).flatMap read =
      read (.literal text) ++ (tokens rest).flatMap read := by
  rw [tokens, pieces_append_of_no_slot h, tokens]
  induction text with
  | nil => rw [read_literal_nil hread, List.nil_append, List.foldr_nil]
  | cons c text ih =>
    have hrest := ih fun v hne hv => h v hne (hv.trans (List.suffix_cons c text))
    rw [List.foldr_cons, flatMap_map_consPlain hread, hrest, ← List.append_assoc, ← hread]
    rfl

omit hread in
theorem flatMap_tokens_source_append {cs : List Char} {t : Token} (ht : t ∈ tokens cs)
    (hslot : t.isSlot = true) (rest : List Char) :
    (tokens (t.source ++ rest)).flatMap read = read t ++ (tokens rest).flatMap read := by
  rw [tokens, pieces_of_slot? (slot?_source_append ht hslot rest), List.map_cons,
    List.flatMap_cons]
  show read (.ofInner t.inner) ++ _ = _
  rw [ofInner_inner ht hslot]
  rfl

/-- **A filled template is read like the template** with literals in place of the slots that have a
value, if no value has an opening brace. -/
theorem flatMap_tokens_fill {cs : List Char} {values : List (List Char × List Char)}
    (hvalues : ∀ p ∈ values, '{' ∉ p.2) :
    (tokens ((tokens cs).flatMap (Token.fill values))).flatMap read =
      (tokens cs).flatMap fun t =>
        if t.isKept (values.map Prod.fst) then read t else read (.literal (t.fill values)) := by
  refine rear_induction (motive := fun bs =>
    (tokens (bs.flatMap (Token.fill values))).flatMap read = bs.flatMap fun t =>
      if t.isKept (values.map Prod.fst) then read t else read (.literal (t.fill values))) ?_ ?_
  · rw [List.flatMap_nil, tokens, pieces_nil]
    rfl
  intro as t bs h hrest
  rw [List.flatMap_cons, List.flatMap_cons, ← hrest]
  cases hkept : t.isKept (values.map Prod.fst) with
  | true =>
    have hmem : t ∈ tokens cs := by simp [h]
    rw [Token.fill_of_isKept hkept, if_pos rfl]
    exact flatMap_tokens_source_append hmem (Token.isSlot_of_isKept hkept) _
  | false =>
    have hno : ∀ v, v ≠ [] → v <:+ t.fill values →
        slot? opening (v ++ bs.flatMap (Token.fill values)) = none := by
      intro v hne hv
      have := no_slot_of_not_isKept hvalues h hkept oneLine_nil hne hv
      rwa [List.append_nil] at this
    rw [if_neg Bool.false_ne_true]
    exact flatMap_tokens_append_of_no_slot hread hno

end Reading

/-! ## Values in two steps -/

section Values

variable {cs : List Char} {values : List (List Char × List Char)}

theorem Token.fill_append_of_isKept {t : Token} (h : t.isKept (values.map Prod.fst) = true)
    (more : List (List Char × List Char)) : t.fill (values ++ more) = t.fill more := by
  cases t with
  | literal text => rfl
  | icon name => rfl
  | argument name => rw [fill, fill, List.lookup_append, lookup_eq_none_of_isKept h, Option.none_or]

/-- Filling with some values and then with more is filling with all of them. -/
theorem fill_values_append (hvalues : ∀ p ∈ values, '{' ∉ p.2)
    (more : List (List Char × List Char)) :
    (tokens ((tokens cs).flatMap (Token.fill values))).flatMap (Token.fill more) =
      (tokens cs).flatMap (Token.fill (values ++ more)) := by
  rw [flatMap_tokens_fill (fun as bs => rfl) hvalues]
  refine List.flatMap_congr fun t _ => ?_
  cases hkept : t.isKept (values.map Prod.fst) with
  | true => rw [if_pos rfl, Token.fill_append_of_isKept hkept]
  | false =>
    rw [if_neg Bool.false_ne_true, Token.fill_append_of_not_isKept hkept]
    rfl

theorem argumentNames_eq_flatMap (ts : List Token) :
    argumentNames ts = ts.flatMap fun t => t.argumentName?.toList :=
  List.filterMap_eq_flatMap_toList _ ts

/-- The argument slots left over are those of the names without a value. -/
theorem argumentNames_fill (hvalues : ∀ p ∈ values, '{' ∉ p.2) :
    argumentNames (tokens ((tokens cs).flatMap (Token.fill values))) =
      (argumentNames (tokens cs)).filter fun name => !(values.map Prod.fst).contains name := by
  rw [argumentNames_eq_flatMap, flatMap_tokens_fill (fun as bs => rfl) hvalues, argumentNames]
  induction tokens cs with
  | nil => rfl
  | cons t ts ih =>
    rw [List.flatMap_cons, ih]
    cases t with
    | literal text => rfl
    | icon name => rfl
    | argument name =>
      have hname : (Token.argument name).argumentName? = some name := rfl
      rw [List.filterMap_cons_some hname, List.filter_cons, Token.isKept]
      by_cases h : (values.map Prod.fst).contains name = true
      · rw [h]
        rfl
      · rw [Bool.not_eq_true] at h
        rw [h]
        rfl

end Values

/-! ## Arguments in two steps -/

theorem zip_append_drop {α β : Type} (names : List α) (as bs : List β) :
    names.zip (as ++ bs) = names.zip as ++ (names.drop as.length).zip bs := by
  induction as generalizing names with
  | nil => simp
  | cons a as ih =>
    cases names with
    | nil => simp
    | cons name names => simp [ih]

/-- Without repetitions, what is not among the first ones stands behind them. -/
theorem filter_not_mem_take {α : Type} [BEq α] [LawfulBEq α] {xs : List α} (h : xs.Nodup) (n : ℕ) :
    (xs.filter fun x => !(xs.take n).contains x) = xs.drop n := by
  have hdisjoint : (xs.take n).Disjoint (xs.drop n) := List.disjoint_take_drop h (Nat.le_refl n)
  have hfront : ((xs.take n).filter fun x => !(xs.take n).contains x) = [] := by
    rw [List.filter_eq_nil_iff]
    intro x hx
    simp [hx]
  have hrear : ((xs.drop n).filter fun x => !(xs.take n).contains x) = xs.drop n := by
    rw [List.filter_eq_self]
    intro x hx
    simpa using fun hfirst => hdisjoint hfirst hx
  conv_lhs => arg 2; rw [← List.take_append_drop n xs]
  rw [List.filter_append, hfront, hrear, List.nil_append]

section Arguments

variable {cs : List Char} {args : List (List Char)}

theorem forall_mem_zip_of_forall_mem (names : List (List Char))
    (hargs : ∀ arg ∈ args, '{' ∉ arg) : ∀ p ∈ names.zip args, '{' ∉ p.2 :=
  fun _ hp => hargs _ (List.of_mem_zip hp).2

/-- Of slots with names of their own, the first arguments fill the first slots and leave the
others. -/
theorem argumentNames_tokens_fill (hnames : (argumentNames (tokens cs)).Nodup)
    (hargs : ∀ arg ∈ args, '{' ∉ arg) :
    argumentNames (tokens (fill cs args)) = (argumentNames (tokens cs)).drop args.length := by
  have hvalues := forall_mem_zip_of_forall_mem (argumentNames (tokens cs)) hargs
  unfold fill
  rw [argumentNames_fill hvalues, map_fst_zip_eq_take]
  exact filter_not_mem_take hnames args.length

theorem fill_fill (hnames : (argumentNames (tokens cs)).Nodup)
    (hargs : ∀ arg ∈ args, '{' ∉ arg) (more : List (List Char)) :
    fill (fill cs args) more = fill cs (args ++ more) := by
  let names := argumentNames (tokens cs)
  have hvalues := forall_mem_zip_of_forall_mem names hargs
  have hleft : argumentNames (tokens (fill cs args)) = names.drop args.length :=
    argumentNames_tokens_fill hnames hargs
  calc fill (fill cs args) more
      = (tokens (fill cs args)).flatMap
          (Token.fill ((argumentNames (tokens (fill cs args))).zip more)) := rfl
    _ = (tokens (fill cs args)).flatMap
          (Token.fill ((names.drop args.length).zip more)) := by rw [hleft]
    _ = (tokens cs).flatMap
          (Token.fill (names.zip args ++ (names.drop args.length).zip more)) :=
        fill_values_append hvalues _
    _ = (tokens cs).flatMap (Token.fill (names.zip (args ++ more))) := by rw [zip_append_drop]
    _ = fill cs (args ++ more) := rfl

end Arguments

/-- **Filling in two steps is filling once**, if no two argument slots are alike and no argument of
the first step has an opening brace. The slots that the first step leaves are the last ones of the
template. Surplus arguments are reported in one of the two steps exactly if they are for all
arguments at once. -/
theorem bind_bind (template : String) (args more : List String)
    (hslots : (argumentSources (tokens template.toList)).Nodup)
    (hargs : ∀ arg ∈ args, '{' ∉ arg.toList) :
    argumentSources (tokens (bind template args).value.toList) =
        (argumentSources (tokens template.toList)).drop args.length ∧
      (bind (bind template args).value more).value = (bind template (args ++ more)).value ∧
      ((bind template args).effects = [] ∧ (bind (bind template args).value more).effects = [] ↔
        (bind template (args ++ more)).effects = []) := by
  have hnames : (argumentNames (tokens template.toList)).Nodup := by
    rw [argumentSources_eq] at hslots
    exact hslots.of_map _
  have hargs' : ∀ arg ∈ args.map String.toList, '{' ∉ arg := List.forall_mem_map.mpr hargs
  have hleft := argumentNames_tokens_fill hnames hargs'
  rw [← toList_value_bind, List.length_map] at hleft
  refine ⟨?_, ?_, ?_⟩
  · rw [argumentSources_eq, argumentSources_eq, hleft, List.map_drop]
  · rw [value_bind _ more, toList_value_bind, fill_fill hnames hargs', value_bind, List.map_append]
  · rw [effects_bind, effects_bind, effects_bind, hleft, List.length_drop, List.length_append]
    split_ifs <;> simp <;> omega

/-- A value of closing braces and a line end, an empty value, a slot with a brace in its name, and
values with braces in the second step. -/
theorem bind_bind_braces :
    let template := "{{a}}{{icon:}}{{b{}}}{{c}}({{d}}"
    (argumentSources (tokens template.toList)).Nodup ∧
      (∀ arg ∈ ["\x7d\x7d\n", ""], '{' ∉ arg.toList) ∧
      argumentSources (tokens (bind template ["\x7d\x7d\n", ""]).value.toList) =
        ["{{c}}".toList, "{{d}}".toList] ∧
      (bind (bind template ["\x7d\x7d\n", ""]).value ["{{d}}"]).value =
        (bind template ["\x7d\x7d\n", "", "{{d}}"]).value :=
  have hslots : (argumentSources (tokens "{{a}}{{icon:}}{{b{}}}{{c}}({{d}}".toList)).Nodup := by
    decide +kernel
  have hargs : ∀ arg ∈ ["\x7d\x7d\n", ""], '{' ∉ arg.toList := by decide
  have htwice := bind_bind "{{a}}{{icon:}}{{b{}}}{{c}}({{d}}" ["\x7d\x7d\n", ""] ["{{d}}"]
    hslots hargs
  ⟨hslots, hargs, htwice.1.trans (by decide +kernel), htwice.2.1⟩

/-- A repeated slot uses up an argument, but only as long as it is there. -/
example :
    (bind (bind "{{a}}{{a}}{{b}}" ["1"]).value ["2", "3"]).value = "112" ∧
      (bind "{{a}}{{a}}{{b}}" ["1", "2", "3"]).value = "113" := by
  decide +kernel

end Captions.Template

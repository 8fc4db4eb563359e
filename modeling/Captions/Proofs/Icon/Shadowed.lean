import Captions.Proofs.Icon.Covered
import Mathlib.Data.List.Sort

/-!
# Icon slots that keep their names

Read anew in the filled text, an icon slot of a template keeps its name unless an opening mark in
front of it has been left open. The template itself can leave one open, since an icon slot without a
name is a slot of a template and none of a caption.

Results:
* `placed_mem_iconSlots_iff`: a named icon slot is found in its place exactly when no opening mark
  is left open in front of it.
* `exists_of_isShadowed`: without opening braces in the arguments, only a slot that ends in
  `{{icon:}}` leaves a mark open.
* `iconNames_sublist`: the names of all other slots are found in order, and give their glyphs.
-/

namespace Captions.Template

open Text

/-! ## Slots found in their place -/

/-- Whether the text in front of the slot leaves an opening mark open, which then takes the slot
into its own name. -/
def Copied.isShadowed (s : Copied) : Bool := leavesOpen s.before

variable {cs : List Char} {args : List (List Char)} {s : Copied}

/-- A named icon slot is read in its place exactly when no mark is left open in front of it. -/
theorem placed_mem_iconSlots_iff (h : s ∈ namedIcons cs args) :
    s.placed ∈ iconSlots (fill cs args) ↔ s.isShadowed = false := by
  obtain ⟨name, htoken, hname⟩ := exists_icon_of_mem_namedIcons h
  obtain ⟨after, hafter⟩ := fill_eq_of_mem_namedIcons h
  rw [htoken] at hafter
  rw [hafter, Copied.placed, htoken]
  constructor
  · intro hmem
    rw [Copied.isShadowed, Bool.eq_false_iff]
    intro hopen
    obtain ⟨ps, mid, hfront, -, hpieces⟩ := pieces_append_of_open hname hopen after
    have hmem' := mem_iconSlots_iff.mpr ⟨ps, _, _, hpieces, rfl⟩
    -- Both would end where the slot ends, but the one has the longer name.
    have hstop := stop_eq_of_pieces hpieces
    rw [byteSize_append] at hstop
    have hsame := List.inj_on_of_nodup_map (nodup_map (pairwise_stop_iconSlots _)) hmem' hmem hstop
    have hstart := congrArg (fun p => byteSize p.token.source) hsame
    have hpos : 0 < byteSize iconOpening := by decide
    simp [Token.source] at hstart
    omega
  · intro hclosed
    refine mem_iconSlots_iff.mpr ⟨_, name, _, pieces_append_of_closed hname hclosed after, ?_⟩
    rw [flatMap_source_pieces]

/-! ## What leaves a mark open -/

theorem exists_of_flatMap_eq {α β : Type} {f : α → List β} {xs : List α} {as bs : List β} {b : β}
    (h : xs.flatMap f = as ++ b :: bs) :
    ∃ us x vs c d, xs = us ++ x :: vs ∧ as = us.flatMap f ++ c ∧ f x = c ++ b :: d ∧
      bs = d ++ vs.flatMap f := by
  induction xs generalizing as with
  | nil => simp at h
  | cons x xs ih =>
    rw [List.flatMap_cons] at h
    rcases List.append_eq_append_iff.mp h with ⟨m, rfl, hm⟩ | ⟨m, hx, hm⟩
    · obtain ⟨us, y, vs, c, d, rfl, rfl, hy, rfl⟩ := ih hm
      exact ⟨x :: us, y, vs, c, d, rfl, by simp, hy, rfl⟩
    · cases m with
      | nil =>
        have hrest : xs.flatMap f = [] ++ b :: bs := hm.symm
        obtain ⟨us, y, vs, c, d, rfl, hc, hy, rfl⟩ := ih hrest
        refine ⟨x :: us, y, vs, c, d, rfl, ?_, hy, rfl⟩
        rw [List.flatMap_cons, hx, List.append_assoc, ← hc, List.append_nil, List.append_nil]
      | cons b' d =>
        obtain ⟨rfl, rfl⟩ := List.cons.inj hm
        exact ⟨[], x, xs, as, d, rfl, by simp, hx, rfl⟩

/-- An opening mark that begins in a slot and is left open behind it is the last thing before the
slot's closing mark. -/
theorem emptyIcon_suffix_of_source_eq {inner front y rest mid more : List Char}
    (hsource : opening ++ (inner ++ closing) = front ++ '{' :: y)
    (hmark : '{' :: y ++ rest = iconOpening ++ mid) (hinner : IsInner (mid ++ more)) :
    iconOpening ++ closing <:+ opening ++ (inner ++ closing) := by
  have hrear : '{' :: y <:+ opening ++ inner ++ closing :=
    ⟨front, by rw [List.append_assoc, hsource]⟩
  obtain ⟨m, hy, rfl⟩ := exists_of_suffix_append_closing (List.cons_ne_nil _ _) hrear hmark
  cases m with
  | nil => rwa [hy, List.append_assoc] at hrear
  | cons c m =>
    refine absurd ?_ hinner.noClosing
    exact ⟨m, rest ++ more ++ ['}'], by simp⟩

/-- No opening mark that begins in a literal is left open behind it. -/
theorem not_isInner_of_literal_eq {front y rest mid more : List Char} {as bs : List Token}
    (htokens : tokens cs = as ++ .literal (front ++ '{' :: y) :: bs) (hbs : bs ≠ [])
    (hmark : '{' :: y ++ rest = iconOpening ++ mid) : ¬ IsInner (mid ++ more) := by
  intro hinner
  have hrear : '{' :: y <:+ front ++ '{' :: y := List.suffix_append front _
  have hno : slot? (opening ++ iconMark) ('{' :: y ++ (rest ++ (more ++ closing))) = none :=
    no_slot_in_literal htokens oneLine_iconMark (List.cons_ne_nil _ _) hrear
      fun hnil => absurd hnil hbs
  have hsome : slot? iconOpening (iconOpening ++ mid ++ (more ++ closing)) =
      some (mid ++ more, []) := slot?_eq_some_iff.mpr ⟨by simp, hinner⟩
  rw [← List.append_assoc, hmark, show opening ++ iconMark = iconOpening from rfl, hsome] at hno
  exact absurd hno (Option.some_ne_none _)

/-- Without opening braces in the arguments, a mark is left open only by a slot of the template that
ends in an icon slot without a name. -/
theorem exists_of_isShadowed (hargs : ∀ arg ∈ args, '{' ∉ arg) (h : s ∈ namedIcons cs args)
    (hshadowed : s.isShadowed = true) :
    ∃ s' ∈ copies cs args, s'.before ++ s'.token.source <+: s.before ∧
      s'.token.isSlot = true ∧ (Token.icon []).source <:+ s'.token.source := by
  obtain ⟨as, bs, heq, hbefore⟩ := mem_copies_iff.mp (List.mem_filter.mp h).1
  obtain ⟨name, htoken, hname⟩ := exists_icon_of_mem_namedIcons h
  obtain ⟨ps, mid, hfront, hinner, -⟩ := pieces_append_of_open hname hshadowed []
  -- The mark begins in what some token of the template is filled with.
  have hmark : as.flatMap (Token.fill ((argumentNames (tokens cs)).zip args)) =
      ps.flatMap (Piece.source iconOpening) ++ '{' :: (iconOpening.tail ++ mid) := by
    rw [← hbefore, hfront]
    rfl
  obtain ⟨us, t, vs, c, d, rfl, -, ht, hmid⟩ := exists_of_flatMap_eq hmark
  have hopen : '{' :: d ++ vs.flatMap (Token.fill ((argumentNames (tokens cs)).zip args)) =
      iconOpening ++ mid := by
    rw [List.cons_append, ← hmid]
    rfl
  rw [List.append_assoc, List.cons_append] at heq
  have hslot : ∀ inner, t.source = opening ++ (inner ++ closing) →
      t.fill ((argumentNames (tokens cs)).zip args) = t.source → t.isSlot = true →
      ∃ s' ∈ copies cs args, s'.before ++ s'.token.source <+: s.before ∧
        s'.token.isSlot = true ∧ (Token.icon []).source <:+ s'.token.source := by
    intro inner hsource hfill hslot
    refine ⟨⟨_, t⟩, mem_copies_iff.mpr ⟨us, _, heq, rfl⟩, ?_, hslot, ?_⟩
    · rw [hbefore, List.flatMap_append, List.flatMap_cons, hfill, ← List.append_assoc]
      exact List.prefix_append _ _
    · rw [hfill, hsource] at ht
      show (Token.icon []).source <:+ t.source
      rw [hsource]
      exact emptyIcon_suffix_of_source_eq ht hopen hinner
  cases t with
  | literal l =>
    obtain rfl : l = c ++ '{' :: d := ht
    exact absurd hinner (not_isInner_of_literal_eq heq (by simp) hopen)
  | icon name' => exact hslot (iconMark ++ name') (by simp [Token.source, iconOpening]) rfl rfl
  | argument name' =>
    rcases fill_argument_mem_or (argumentNames (tokens cs)) args name' with hvalue | hfill
    · refine absurd ?_ (hargs _ hvalue)
      rw [ht]
      simp
    · exact hslot name' (by simp [Token.source]) hfill rfl

/-! ## Names found -/

/-- Of two rows sorted by the same key, one with all members in the other is part of it. -/
theorem sublist_of_pairwise_lt {α : Type} {key : α → ℕ} {xs ys : List α}
    (hxs : xs.Pairwise fun x y => key x < key y) (hys : ys.Pairwise fun x y => key x < key y)
    (h : xs ⊆ ys) : xs.Sublist ys := by
  have : Std.Antisymm fun x y => key x < key y := ⟨fun x y hxy hyx => by omega⟩
  have hnodup : xs.Nodup := hxs.imp fun hlt heq => by simp [heq] at hlt
  exact List.sublist_of_subperm_of_pairwise (List.subperm_of_subset hnodup h) hxs hys

theorem filterMap_iconName?_iconSlots (cs : List Char) :
    (iconSlots cs).filterMap (fun p => p.token.iconName?) = iconNames (iconTokens cs) := by
  have hmap := congrArg (List.filterMap Token.iconName?) (map_token_iconSlots cs)
  rw [List.filterMap_map, List.filterMap_map] at hmap
  rw [show (fun p : Placed => p.token.iconName?) = Token.iconName? ∘ Placed.token from rfl, hmap]
  exact List.filterMap_some

/-- The named icon slots of a template in front of which no mark is left open. -/
def keptIcons (cs : List Char) (args : List (List Char)) : List Copied :=
  (namedIcons cs args).filter fun s => !s.isShadowed

theorem map_placed_keptIcons (cs : List Char) (args : List (List Char)) :
    ((keptIcons cs args).map Copied.placed).Sublist (iconSlots (fill cs args)) := by
  refine sublist_of_pairwise_lt ?_ (pairwise_stop_iconSlots _) ?_
  · exact List.pairwise_map.mpr ((pairwise_stop_namedIcons cs args).filter _)
  · intro p hp
    obtain ⟨s, hs, rfl⟩ := List.mem_map.mp hp
    obtain ⟨hmem, hshadowed⟩ := List.mem_filter.mp hs
    exact (placed_mem_iconSlots_iff hmem).mpr (by simpa using hshadowed)

theorem iconNames_keptIcons (cs : List Char) (args : List (List Char)) :
    (iconNames ((keptIcons cs args).map Copied.token)).Sublist
      (iconNames (iconTokens (fill cs args))) := by
  have h := (map_placed_keptIcons cs args).filterMap fun p => p.token.iconName?
  rw [List.filterMap_map, filterMap_iconName?_iconSlots] at h
  rw [iconNames, List.filterMap_map]
  exact h

/-- A template without an icon slot without a name has no slot that ends in one. -/
theorem keptIcons_eq (hargs : ∀ arg ∈ args, '{' ∉ arg) (h : ¬ (Token.icon []).source <:+: cs) :
    keptIcons cs args = namedIcons cs args := by
  refine List.filter_eq_self.mpr fun s hs => ?_
  by_contra hshadowed
  obtain ⟨s', hs', -, -, hsuffix⟩ := exists_of_isShadowed hargs hs (by simpa using hshadowed)
  obtain ⟨as, bs, heq, -⟩ := mem_copies_iff.mp hs'
  exact h (hsuffix.isInfix.trans (source_infix_of_mem_tokens (by simp [heq])))

/-- **Icon slots keep their names unless a mark is left open in front of them.** Just these slots
are found in their places, their names in order, and give their glyphs. Without opening braces in
the arguments only a slot of the template that ends in an icon slot without a name leaves a mark
open, so in a template without such a slot all names are found. -/
theorem iconNames_sublist (template : String) (args : List String) :
    (iconNames ((keptIcons template.toList (args.map String.toList)).map Copied.token)).Sublist
        (iconNames (iconTokens (bind template args).value.toList)) ∧
      (∀ s ∈ namedIcons template.toList (args.map String.toList),
        s.placed ∈ iconSlots (bind template args).value.toList ↔ s.isShadowed = false) ∧
      (∀ icons : Icons, icons.enabled = true →
        ((iconNames ((keptIcons template.toList (args.map String.toList)).map
            Copied.token)).filterMap (Icons.glyphNamed? icons.table)).Sublist
          ((icons.resolve (bind template args).value).value.spans.map fun span =>
            (span.name, span.glyph))) ∧
      ((∀ arg ∈ args, '{' ∉ arg.toList) →
        (∀ s ∈ namedIcons template.toList (args.map String.toList), s.isShadowed = true →
          ∃ s' ∈ copies template.toList (args.map String.toList),
            s'.before ++ s'.token.source <+: s.before ∧ s'.token.isSlot = true ∧
            (Token.icon []).source <:+ s'.token.source) ∧
        (¬ (Token.icon []).source <:+: template.toList →
          (iconNames ((tokens template.toList).filter Token.isNamedIcon)).Sublist
            (iconNames (iconTokens (bind template args).value.toList)))) := by
  have hkept := iconNames_keptIcons template.toList (args.map String.toList)
  rw [← toList_value_bind] at hkept
  refine ⟨hkept, ?_, ?_, ?_⟩
  · intro s hs
    rw [toList_value_bind]
    exact placed_mem_iconSlots_iff hs
  · intro icons henabled
    rw [Icons.value_resolve, Icons.glyphs_resolution henabled]
    exact hkept.filterMap _
  · intro hargs
    have hargs' : ∀ arg ∈ args.map String.toList, '{' ∉ arg := by
      intro arg harg
      obtain ⟨text, htext, rfl⟩ := List.mem_map.mp harg
      exact hargs text htext
    refine ⟨fun s hs hshadowed => exists_of_isShadowed hargs' hs hshadowed, fun hno => ?_⟩
    rwa [keptIcons_eq hargs' hno, map_token_namedIcons] at hkept

/-- An icon slot without a name takes in the icon slot behind it. -/
theorem not_iconNames_sublist :
    iconNames ((tokens "{{icon:}}{{icon:undo}}".toList).filter Token.isNamedIcon) =
        ["undo".toList] ∧
      iconNames (iconTokens (bind "{{icon:}}{{icon:undo}}" []).value.toList) =
        [closing ++ iconOpening ++ "undo".toList] ∧
      ¬ (iconNames ((tokens "{{icon:}}{{icon:undo}}".toList).filter Token.isNamedIcon)).Sublist
        (iconNames (iconTokens (bind "{{icon:}}{{icon:undo}}" []).value.toList)) := by
  decide +kernel

end Captions.Template

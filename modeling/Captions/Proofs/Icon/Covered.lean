import Captions.Proofs.Icon.Names
import Captions.Proofs.Template.IconSlots
import Mathlib.Data.List.Nodup
import Mathlib.Data.List.Perm.Subperm

/-!
# No argument hides an icon slot

A template is read once for its slots and, filled, once more for its icon slots. Whatever the
arguments bring in, an icon slot that filling copies ends an icon slot of the caption, which is the
slot itself or one that has taken it into its name.

Results:
* `exists_iconSlot_stop`: an icon slot with any text before and behind it ends an icon slot.
* `existsUnique_iconSlot_stop`: the same for all named icon slots of a template at once, and so a
  caption has no fewer icon slots than its template.
-/

namespace Captions.Template

open Text

/-- Sorted without repetitions. -/
theorem nodup_map {α : Type} {key : α → ℕ} {xs : List α}
    (h : xs.Pairwise fun x y => key x < key y) : (xs.map key).Nodup :=
  List.pairwise_map.mpr (h.imp fun hlt => hlt.ne)

/-! ## Icon slots of a template -/

/-- Whether the token is an icon slot with a name. -/
def Token.isNamedIcon : Token → Bool
  | icon name => !name.isEmpty
  | _ => false

/-- The named icon slots of a template where filling puts them. -/
def namedIcons (cs : List Char) (args : List (List Char)) : List Copied :=
  (copies cs args).filter (·.token.isNamedIcon)

variable {cs : List Char} {args : List (List Char)}

theorem map_token_namedIcons (cs : List Char) (args : List (List Char)) :
    (namedIcons cs args).map Copied.token = (tokens cs).filter Token.isNamedIcon := by
  have hmap := map_token_copiesFrom ((argumentNames (tokens cs)).zip args) [] (tokens cs)
  rw [← hmap, List.filter_map]
  rfl

theorem exists_icon_of_mem_namedIcons {s : Copied} (h : s ∈ namedIcons cs args) :
    ∃ name, s.token = .icon name ∧ IsIconName name := by
  obtain ⟨hs, hnamed⟩ := List.mem_filter.mp h
  obtain ⟨as, bs, heq, -⟩ := mem_copies_iff.mp hs
  cases htoken : s.token with
  | literal text => simp [htoken, Token.isNamedIcon] at hnamed
  | argument name => simp [htoken, Token.isNamedIcon] at hnamed
  | icon name =>
    have hne : name ≠ [] := by simpa [htoken, Token.isNamedIcon] using hnamed
    have hmem : Token.icon name ∈ tokens cs := by simp [heq, htoken]
    exact ⟨name, rfl, hne, isInner_of_mem_tokens hmem (.icon name)⟩

/-- A named icon slot stands in the filled text as it stands in the template. -/
theorem fill_eq_of_mem_namedIcons {s : Copied} (h : s ∈ namedIcons cs args) :
    ∃ after, fill cs args = s.before ++ (s.token.source ++ after) := by
  obtain ⟨as, bs, heq, hbefore⟩ := mem_copies_iff.mp (List.mem_filter.mp h).1
  obtain ⟨name, htoken, -⟩ := exists_icon_of_mem_namedIcons h
  rw [fill_eq_append heq, hbefore, htoken]
  exact ⟨_, rfl⟩

/-- The named icon slots of a template end one behind the other. -/
theorem pairwise_stop_namedIcons (cs : List Char) (args : List (List Char)) :
    (namedIcons cs args).Pairwise fun s s' => s.placed.stop < s'.placed.stop := by
  have hcopies : (namedIcons cs args).Pairwise fun s s' =>
      s.before ++ s.token.fill ((argumentNames (tokens cs)).zip args) <+: s'.before :=
    (pairwise_copiesFrom _ _ _).filter _
  refine hcopies.imp_of_mem fun {s s'} hs hs' hstart => ?_
  obtain ⟨name, htoken, -⟩ := exists_icon_of_mem_namedIcons hs
  obtain ⟨name', htoken', -⟩ := exists_icon_of_mem_namedIcons hs'
  obtain ⟨between, hbetween⟩ := hstart
  have hpos : 0 < byteSize closing := by decide
  have hsizes := congrArg byteSize hbetween
  rw [htoken] at hsizes
  simp only [Token.fill, byteSize_append] at hsizes
  simp only [Copied.placed, Placed.stop, htoken, htoken']
  rw [show (Token.icon name').source = iconOpening ++ name' ++ closing from rfl, byteSize_append]
  omega

/-! ## Icon slots of a caption -/

theorem pairwise_placed (offset : ℕ) (ts : List Token) :
    (placed offset ts).Pairwise fun p q => p.stop ≤ q.start := by
  induction ts generalizing offset with
  | nil => exact .nil
  | cons t ts ih =>
    refine .cons (fun q hq => ?_) (ih _)
    obtain ⟨as, u, bs, -, rfl⟩ := mem_placed_iff.mp hq
    exact Nat.le_add_right _ _

/-- The icon slots of a caption end one behind the other. -/
theorem pairwise_stop_iconSlots (cs : List Char) :
    (iconSlots cs).Pairwise fun p q => p.stop < q.stop := by
  refine ((pairwise_placed 0 (iconTokens cs)).filter _).imp_of_mem fun {p q} _ hq hle => ?_
  have hslot := (List.mem_filter.mp hq).2
  have hpos : 0 < byteSize q.token.source := by
    refine Nat.pos_of_ne_zero fun hzero => ?_
    have := byteSize_eq_zero_iff.mp hzero
    cases hq : q.token <;> simp [hq, Token.isSlot, Token.source, closing] at hslot this
  rw [Placed.stop.eq_1 q]
  omega

theorem mem_iconSlots_iff {p : Placed} :
    p ∈ iconSlots cs ↔ ∃ ps inner qs, pieces iconOpening cs = ps ++ .slot inner :: qs ∧
      p = ⟨byteSize (ps.flatMap (Piece.source iconOpening)), .icon inner⟩ := by
  rw [iconSlots, List.mem_filter, mem_placed_iff]
  constructor
  · rintro ⟨⟨as, t, bs, heq, rfl⟩, hslot⟩
    obtain ⟨ps, qs', hps, rfl, hqs⟩ := List.map_eq_append_iff.mp heq
    obtain ⟨q, qs, rfl, rfl, rfl⟩ := List.map_eq_cons_iff.mp hqs
    cases q with
    | plain text => simp [Piece.toIconToken, Token.isSlot] at hslot
    | slot inner =>
      refine ⟨ps, inner, qs, hps, ?_⟩
      simp only [sources, List.flatMap_map, Piece.source_toIconToken, Nat.zero_add]
      rfl
  · rintro ⟨ps, inner, qs, heq, rfl⟩
    refine ⟨⟨ps.map Piece.toIconToken, .icon inner, qs.map Piece.toIconToken, ?_, ?_⟩, rfl⟩
    · rw [iconTokens, heq, List.map_append, List.map_cons]
      rfl
    · simp only [sources, List.flatMap_map, Piece.source_toIconToken, Nat.zero_add]

/-- A slot of the caption that leaves the same text behind it as an icon slot ends where that one
does. -/
theorem stop_eq_of_pieces {front name rest inner : List Char} {ps : List Piece}
    (h : pieces iconOpening (front ++ ((Token.icon name).source ++ rest)) =
      ps ++ .slot inner :: pieces iconOpening rest) :
    (Placed.mk (byteSize (ps.flatMap (Piece.source iconOpening))) (.icon inner)).stop =
      byteSize (front ++ (Token.icon name).source) := by
  have hsource := flatMap_source_pieces iconOpening (front ++ ((Token.icon name).source ++ rest))
  rw [h, List.flatMap_append, List.flatMap_cons, flatMap_source_pieces] at hsource
  have hsizes := congrArg byteSize hsource
  have hslot : (Piece.slot inner).source iconOpening = (Token.icon inner).source := rfl
  simp only [byteSize_append, hslot] at hsizes
  show byteSize (ps.flatMap (Piece.source iconOpening)) + byteSize (Token.icon inner).source = _
  rw [byteSize_append]
  omega

/-- An icon slot with any text before and behind it ends an icon slot of the caption. -/
theorem exists_iconSlot_stop {name : List Char} (hname : IsIconName name)
    (front rest : List Char) :
    ∃ p ∈ iconSlots (front ++ ((Token.icon name).source ++ rest)),
      p.stop = byteSize (front ++ (Token.icon name).source) := by
  obtain ⟨ps, inner, hpieces⟩ : ∃ ps inner,
      pieces iconOpening (front ++ ((Token.icon name).source ++ rest)) =
        ps ++ .slot inner :: pieces iconOpening rest := by
    cases hopen : leavesOpen front with
    | false => exact ⟨_, _, pieces_append_of_closed hname hopen rest⟩
    | true =>
      obtain ⟨ps, mid, _, _, hpieces⟩ := pieces_append_of_open hname hopen rest
      exact ⟨ps, _, hpieces⟩
  exact ⟨_, mem_iconSlots_iff.mpr ⟨ps, inner, _, hpieces, rfl⟩, stop_eq_of_pieces hpieces⟩

theorem map_token_placed (offset : ℕ) (ts : List Token) :
    (placed offset ts).map Placed.token = ts := by
  induction ts generalizing offset with
  | nil => rfl
  | cons t ts ih => rw [placed, List.map_cons, ih]

theorem map_token_iconSlots (cs : List Char) :
    (iconSlots cs).map Placed.token = (iconNames (iconTokens cs)).map Token.icon := by
  have hslots : (iconSlots cs).map Placed.token = (iconTokens cs).filter Token.isSlot := by
    have hmap := map_token_placed 0 (iconTokens cs)
    conv_rhs => rw [← hmap]
    rw [List.filter_map]
    rfl
  rw [hslots, iconNames, iconTokens]
  induction pieces iconOpening cs with
  | nil => rfl
  | cons p ps ih =>
    cases p with
    | plain text => exact ih
    | slot name => exact congrArg (Token.icon name :: ·) ih

theorem length_iconSlots (cs : List Char) :
    (iconSlots cs).length = (iconNames (iconTokens cs)).length := by
  have := congrArg List.length (map_token_iconSlots cs)
  rwa [List.length_map, List.length_map] at this

/-! ## Filled templates -/

/-- A named icon slot of a template ends an icon slot of the filled text. -/
theorem exists_iconSlot_of_mem_namedIcons {s : Copied} (h : s ∈ namedIcons cs args) :
    ∃ p ∈ iconSlots (fill cs args), p.stop = s.placed.stop := by
  obtain ⟨name, htoken, hname⟩ := exists_icon_of_mem_namedIcons h
  obtain ⟨after, hafter⟩ := fill_eq_of_mem_namedIcons h
  rw [hafter, htoken]
  obtain ⟨p, hp, hstop⟩ := exists_iconSlot_stop hname s.before after
  refine ⟨p, hp, ?_⟩
  rw [hstop, byteSize_append, Placed.stop, Copied.placed, htoken]

/-- **No argument hides an icon slot.** Whatever the arguments are, each named icon slot of a
template stands in the caption and ends exactly one icon slot of it, and no two of them end the
same one. So the caption gives at least as many glyphs and reports as the template has named icon
slots. -/
theorem existsUnique_iconSlot_stop (template : String) (args : List String) :
    (namedIcons template.toList (args.map String.toList)).map Copied.token =
        (tokens template.toList).filter Token.isNamedIcon ∧
      (∀ s ∈ namedIcons template.toList (args.map String.toList),
        s.before ++ s.token.source <+: (bind template args).value.toList ∧
        ∃! p, p ∈ iconSlots (bind template args).value.toList ∧ p.stop = s.placed.stop) ∧
      ((namedIcons template.toList (args.map String.toList)).Pairwise fun s s' =>
        s.placed.stop < s'.placed.stop) ∧
      ∀ icons : Icons, icons.enabled = true →
        (tokens template.toList).countP Token.isNamedIcon ≤
          (icons.resolve (bind template args).value).value.spans.length +
            (icons.resolve (bind template args).value).value.unresolved.length := by
  have htokens := map_token_namedIcons template.toList (args.map String.toList)
  have hcopied := pairwise_stop_namedIcons template.toList (args.map String.toList)
  rw [toList_value_bind]
  refine ⟨htokens, ?_, hcopied, ?_⟩
  · intro s hs
    obtain ⟨after, hafter⟩ := fill_eq_of_mem_namedIcons hs
    refine ⟨⟨after, by rw [hafter, List.append_assoc]⟩, ?_⟩
    obtain ⟨p, hp, hstop⟩ := exists_iconSlot_of_mem_namedIcons hs
    refine ⟨p, ⟨hp, hstop⟩, ?_⟩
    rintro q ⟨hq, hqstop⟩
    exact List.inj_on_of_nodup_map (nodup_map (pairwise_stop_iconSlots _)) hq hp
      (hqstop.trans hstop.symm)
  · intro icons henabled
    have hstops : (namedIcons template.toList (args.map String.toList)).map (·.placed.stop) ⊆
        (iconSlots (bind template args).value.toList).map Placed.stop := by
      intro n hn
      obtain ⟨s, hs, rfl⟩ := List.mem_map.mp hn
      obtain ⟨p, hp, hstop⟩ := exists_iconSlot_of_mem_namedIcons hs
      rw [toList_value_bind]
      exact List.mem_map.mpr ⟨p, hp, hstop⟩
    have hlength := (List.Nodup.subperm (nodup_map hcopied) hstops).length_le
    rw [List.length_map, List.length_map, length_iconSlots] at hlength
    rw [Icons.value_resolve, Icons.length_spans_add_length_unresolved henabled, List.countP_eq_length_filter,
      ← htokens, List.length_map]
    exact hlength

/-- An argument that is an opening mark takes in the icon slot behind it, and nothing more. -/
example : iconNames (iconTokens (fill "{{a}}{{icon:undo}}".toList [iconOpening])) =
    [iconOpening ++ "undo".toList] := by
  decide +kernel

end Captions.Template

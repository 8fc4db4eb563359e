import Captions.Proofs.Template.Copies
import Mathlib.Data.List.Infix

/-!
# Icon slots in a filled template

A caption is a filled template, and its icon slots are read anew. Text in front of an icon slot of
the template may leave an opening mark open, which then takes the slot into its own name; no text
does more than that.

Results:
* `slot?_append_icon`: a slot that begins in front of an icon slot ends there or takes it in.
* `not_oneLine_of_slot_mem`: a line ends behind a mark that opens no slot, if a slot is behind it.
* `leavesOpen_of_no_slot`: when a text leaves an opening mark open, told character by character.
* `pieces_append_of_closed`, `pieces_append_of_open`: how an icon slot is read behind some text.
-/

namespace Captions.Template

open Text

/-! ## Names of icon slots -/

/-- A name that an icon slot has in a template and may have in a caption. -/
structure IsIconName (name : List Char) : Prop where
  ne_nil : name ≠ []
  isInner : IsInner (iconMark ++ name)

theorem oneLine_iconMark : OneLine iconMark := any_isLineBreak_eq_false_iff.mp rfl

theorem oneLine_iconOpening : OneLine iconOpening :=
  oneLine_append.mpr ⟨oneLine_opening, oneLine_iconMark⟩

namespace IsIconName

variable {name : List Char}

theorem oneLine (h : IsIconName name) : OneLine name := (oneLine_append.mp h.isInner.oneLine).2

theorem noClosing (h : IsIconName name) : ¬ closing <:+: name ++ ['}'] := by
  have hmark : (iconMark ++ name).tail ++ ['}'] = ['c', 'o', 'n', ':'] ++ (name ++ ['}']) := rfl
  have := h.isInner.noClosing
  rwa [hmark, closing_infix_append_iff (by decide)] at this

theorem isInner_self (h : IsIconName name) : IsInner name :=
  h.isInner.of_suffix_tail h.ne_nil (List.suffix_append ['c', 'o', 'n', ':'] name)

end IsIconName

/-! ## A slot behind some text -/

/-- What stands in front of an icon slot cannot be continued by it to another opening mark. -/
theorem iconOpening_prefix_of_append {front a b : List Char} (hne : front ≠ [])
    (h : front ++ (iconOpening ++ a) = iconOpening ++ b) : iconOpening <+: front := by
  rcases List.append_eq_append_iff.mp h with ⟨m, hm, hb⟩ | ⟨m, rfl, -⟩
  · -- `m` is a rear part of the mark that starts as the mark does: all of it or nothing.
    have hrear : m <:+ iconOpening := ⟨front, hm.symm⟩
    simp only [iconOpening, opening, iconMark, List.cons_append, List.nil_append,
      List.suffix_cons_iff, List.suffix_nil] at hrear hb
    rcases hrear with rfl | rfl | rfl | rfl | rfl | rfl | rfl | rfl
    · exact absurd (List.self_eq_append_left.mp hm) hne
    all_goals simp_all
  · exact List.prefix_append iconOpening m

/-- An icon mark that begins in front of a closing mark is written out there. -/
theorem exists_of_suffix_append_closing {text v rest mid : List Char} (hne : v ≠ [])
    (hv : v <:+ text ++ closing) (h : v ++ rest = iconOpening ++ mid) :
    ∃ m, v = iconOpening ++ (m ++ closing) ∧ mid = m ++ (closing ++ rest) := by
  have hbrace : '{' ∈ v := by
    obtain ⟨c, y, rfl⟩ := List.exists_cons_of_ne_nil hne
    simp [(List.cons.inj h).1]
  obtain ⟨w, rfl⟩ : closing <:+ v := by
    rcases List.suffix_or_suffix_of_suffix hv (List.suffix_append text closing) with hin | hout
    · exact absurd (hin.subset hbrace) (by decide)
    · exact hout
  rw [List.append_assoc] at h
  rcases List.append_eq_append_iff.mp h with ⟨m, hm, hrest⟩ | ⟨m, rfl, hmid⟩
  · cases m with
    | nil => exact ⟨[], by rw [hm, List.append_nil, List.nil_append], hrest.symm⟩
    | cons c m =>
      -- No closing brace is in the opening mark.
      obtain ⟨rfl, -⟩ := List.cons.inj hrest
      have : '}' ∈ iconOpening := by simp [hm]
      exact absurd this (by decide)
  · exact ⟨m, List.append_assoc .., hmid⟩

/-- A slot that begins in front of an icon slot either ends there too or takes the icon slot into
its name, no more and no less. -/
theorem slot?_append_icon (front : List Char) {name rest inner after : List Char}
    (hname : IsIconName name)
    (h : slot? iconOpening (front ++ (iconOpening ++ (name ++ (closing ++ rest)))) =
      some (inner, after)) :
    (∃ after', slot? iconOpening front = some (inner, after')) ∨
      front ++ (iconOpening ++ name) = iconOpening ++ inner ∧ after = rest := by
  obtain ⟨heq, hinner⟩ := slot?_eq_some_iff.mp h
  have heq' : front ++ (iconOpening ++ name ++ (closing ++ rest)) =
      (iconOpening ++ inner) ++ (closing ++ after) := by simpa using heq
  rcases List.append_eq_append_iff.mp heq' with ⟨m, hm, hrest⟩ | ⟨m, rfl, hm⟩
  · -- The closing mark of the slot stands behind the text in front.
    have hopen : ¬ closing <:+: iconOpening ++ name ++ ['}'] := by
      rw [List.append_assoc, closing_infix_append_iff (by decide)]
      exact hname.noClosing
    obtain ⟨w, rfl⟩ := prefix_of_append_closing hopen hrest
    have hrest' : closing ++ rest = w ++ (closing ++ after) := by simpa using hrest
    by_cases hw : w = []
    · subst hw
      exact .inr ⟨by simpa using hm.symm, by simpa using hrest'.symm⟩
    · -- Otherwise it would have closed already at the mark of the icon slot.
      have hclose := closing_infix_of_append_eq hw hrest'.symm
      have hlength : w.length ≤ inner.tail.length := by
        have hlen := congrArg List.length hm
        have := List.length_pos_of_ne_nil hname.ne_nil
        simp only [List.length_append] at hlen
        rw [List.length_tail]
        omega
      have hw : w <:+ iconOpening ++ inner := ⟨front ++ (iconOpening ++ name), by simp [hm]⟩
      have htail : inner.tail <:+ iconOpening ++ inner :=
        (List.tail_suffix inner).trans (List.suffix_append iconOpening inner)
      obtain ⟨u, hu⟩ := List.suffix_of_suffix_length_le hw htail hlength
      refine absurd (hclose.trans ?_) hinner.noClosing
      rw [← hu, List.append_assoc]
      exact List.infix_append_right
  · -- The closing mark stands in front of the icon slot.
    rcases m with _ | ⟨x, _ | ⟨y, m⟩⟩
    · simp [closing, iconOpening, opening] at hm
    · simp [closing, iconOpening, opening] at hm
    · obtain ⟨rfl, rfl, -⟩ : '}' = x ∧ '}' = y ∧ _ := by simpa [closing] using hm
      exact .inl ⟨m, slot?_eq_some_iff.mpr ⟨by simp [closing], hinner⟩⟩

/-! ## Opening marks that are left open -/

/-- Whether an opening mark stands in a literal with no line end behind it. -/
def Token.hasOpenMark : Token → Bool
  | literal text => text.tails.any fun v => iconOpening.isPrefixOf v && !v.any isLineBreak
  | _ => false

/-- Whether a text, read as a caption, ends in a literal with an opening mark on its last line. -/
def leavesOpen (cs : List Char) : Bool := (iconTokens cs).getLast?.any Token.hasOpenMark

theorem hasOpenMark_literal_cons {c : Char} {text : List Char} :
    (Token.literal (c :: text)).hasOpenMark = true ↔
      (Token.literal text).hasOpenMark = true ∨
        iconOpening <+: c :: text ∧ OneLine (c :: text) := by
  have hlit : ∀ text, (Token.literal text).hasOpenMark =
      text.tails.any fun v => iconOpening.isPrefixOf v && !v.any isLineBreak := fun _ => rfl
  rw [hlit, hlit, List.tails_cons, List.any_cons, Bool.or_eq_true, or_comm, Bool.and_eq_true,
    List.isPrefixOf_iff_prefix, Bool.not_eq_true', any_isLineBreak_eq_false_iff]

theorem leavesOpen_nil : leavesOpen [] = false := by
  rw [leavesOpen, iconTokens, pieces_nil]
  rfl

theorem leavesOpen_of_slot? {cs inner rest : List Char}
    (h : slot? iconOpening cs = some (inner, rest)) : leavesOpen cs = leavesOpen rest := by
  rw [leavesOpen, leavesOpen, iconTokens, pieces_of_slot? h, List.map_cons, List.getLast?_cons,
    ← iconTokens]
  cases (iconTokens rest).getLast? <;> rfl

theorem getLast?_consPlain {c : Char} {inner : List Char} {ps : List Piece}
    (h : .slot inner ∈ ps) : (consPlain c ps).getLast? = ps.getLast? := by
  rcases ps with _ | ⟨text | inner', ps⟩
  · simp at h
  · obtain ⟨q, qs, rfl⟩ : ∃ q qs, ps = q :: qs := by
      cases ps with
      | nil => simp at h
      | cons q qs => exact ⟨q, qs, rfl⟩
    rfl
  · rfl

/-- A text without slots is one plain stretch, if it is anything. -/
theorem pieces_of_no_slot_mem {opening cs : List Char}
    (h : ∀ inner, .slot inner ∉ pieces opening cs) :
    cs = [] ∨ pieces opening cs = [.plain cs] := by
  have hsep := (cuts_pieces opening cs).separated
  have hsource := flatMap_source_pieces opening cs
  rcases hps : pieces opening cs with _ | ⟨text | inner, _ | ⟨text' | inner, ps⟩⟩
  · rw [hps] at hsource
    exact .inl hsource.symm
  · rw [hps] at hsource
    obtain rfl : text = cs := by simpa [Piece.source] using hsource
    exact .inr rfl
  · simp [hps, Piece.isPlain] at hsep
  all_goals exact absurd (by simp [hps]) (h inner)

/-- Behind an opening mark of no slot there is no slot on the line. -/
theorem not_oneLine_of_slot_mem {opening cs inner : List Char} {c : Char}
    (hnone : slot? opening (c :: cs) = none) (hmem : .slot inner ∈ pieces opening cs)
    (hstart : opening <+: c :: cs) : ¬ OneLine (c :: cs) := by
  intro hline
  obtain ⟨as, bs, hps⟩ := List.append_of_mem hmem
  have hcuts := cuts_pieces opening cs
  rw [hps] at hcuts
  obtain ⟨rest, rfl, hcut⟩ := hcuts.append_right
  cases hcut with
  | @slot _ after _ hinner _ =>
    -- The opening mark ends in front of the slot's closing mark, which could thus close it.
    generalize as.flatMap (Piece.source opening) = front at hnone hstart hline
    have hlength : opening.length ≤ (c :: (front ++ (opening ++ inner))).length := by
      simp only [List.length_cons, List.length_append]
      omega
    have hreach : c :: (front ++ (opening ++ inner)) <+:
        c :: (front ++ (opening ++ (inner ++ (closing ++ after)))) := ⟨closing ++ after, by simp⟩
    obtain ⟨text, htext⟩ := List.prefix_of_prefix_length_le hstart hreach hlength
    have hne : text ≠ [] := by
      rintro rfl
      have := congrArg List.length htext
      simp only [List.append_nil, List.length_cons, List.length_append] at this
      omega
    have hwhole : c :: (front ++ (opening ++ (inner ++ (closing ++ after)))) =
        opening ++ (text ++ (closing ++ after)) := by
      rw [← List.append_assoc opening text, htext]
      simp
    rw [hwhole] at hnone hline
    have htextline : OneLine text := (oneLine_append.mp (oneLine_append.mp hline).2).1
    exact slot?_ne_none hne htextline opening after hnone

theorem leavesOpen_of_no_slot {rest : List Char} {c : Char}
    (hnone : slot? iconOpening (c :: rest) = none) :
    leavesOpen (c :: rest) = true ↔
      leavesOpen rest = true ∨ iconOpening <+: c :: rest ∧ OneLine (c :: rest) := by
  rw [leavesOpen, leavesOpen, iconTokens, iconTokens, pieces_of_no_slot hnone, List.getLast?_map,
    List.getLast?_map]
  by_cases hslot : ∃ inner, .slot inner ∈ pieces iconOpening rest
  · obtain ⟨inner, hmem⟩ := hslot
    rw [getLast?_consPlain hmem]
    refine ⟨.inl, fun h => h.resolve_right ?_⟩
    rintro ⟨hstart, hline⟩
    exact not_oneLine_of_slot_mem hnone hmem hstart hline
  · rw [not_exists] at hslot
    rcases pieces_of_no_slot_mem hslot with rfl | hplain
    · have hshort : ¬ iconOpening <+: [c] := fun h => by
        have := h.length_le
        simp [iconOpening, opening, iconMark] at this
      have hne : iconOpening ≠ [] := by decide
      simp [pieces_nil, consPlain, Piece.toIconToken, Token.hasOpenMark, hshort, hne]
    · rw [hplain]
      exact hasOpenMark_literal_cons

/-! ## Reading an icon slot behind some text -/

theorem consPlain_append_slot (c : Char) (ps qs : List Piece) (inner : List Char) :
    consPlain c (ps ++ .slot inner :: qs) = consPlain c ps ++ .slot inner :: qs := by
  rcases ps with _ | ⟨_ | _, ps⟩ <;> rfl

theorem source_icon_append (name rest : List Char) :
    (Token.icon name).source ++ rest = iconOpening ++ (name ++ (closing ++ rest)) := by
  simp [Token.source]

/-- Behind a text that leaves no opening mark open, an icon slot is read as it stands. -/
theorem pieces_append_of_closed {front name : List Char} (hname : IsIconName name)
    (hclosed : leavesOpen front = false) (rest : List Char) :
    pieces iconOpening (front ++ ((Token.icon name).source ++ rest)) =
      pieces iconOpening front ++ .slot name :: pieces iconOpening rest := by
  rw [source_icon_append]
  fun_induction pieces iconOpening front with
  | case1 front inner after h ih =>
    rw [leavesOpen_of_slot? h] at hclosed
    rw [pieces_of_slot? (slot?_append h _), ih hclosed, List.cons_append]
  | case2 =>
    have hslot : slot? iconOpening (iconOpening ++ (name ++ (closing ++ rest))) =
        some (name, rest) := slot?_eq_some_iff.mpr ⟨rfl, hname.isInner_self⟩
    rw [List.nil_append, pieces_of_slot? hslot, List.nil_append]
  | case3 c front hnone ih =>
    have hrear : ¬ (leavesOpen front = true ∨
        iconOpening <+: c :: front ∧ OneLine (c :: front)) := by
      rw [← leavesOpen_of_no_slot hnone, hclosed]
      exact Bool.false_ne_true
    rw [not_or, Bool.not_eq_true] at hrear
    have hnone' : slot? iconOpening
        (c :: (front ++ (iconOpening ++ (name ++ (closing ++ rest))))) = none := by
      by_contra hsome
      obtain ⟨⟨inner, after⟩, hslot⟩ := Option.ne_none_iff_exists'.mp hsome
      rcases slot?_append_icon (c :: front) hname hslot with ⟨after', h⟩ | ⟨heq, -⟩
      · rw [hnone] at h
        exact absurd h (by simp)
      · -- The slot would begin with an opening mark that is left open.
        refine hrear.2 ⟨iconOpening_prefix_of_append (by simp) heq, ?_⟩
        have hline : OneLine (c :: front ++ (iconOpening ++ name)) := by
          rw [heq]
          exact oneLine_append.mpr ⟨oneLine_iconOpening, (slot?_eq_some_iff.mp hslot).2.oneLine⟩
        exact (oneLine_append.mp hline).1
    rw [List.cons_append, pieces_of_no_slot hnone', ih hrear.1, consPlain_append_slot]

/-- Behind a text that leaves an opening mark open, an icon slot is taken into the name of the slot
that this mark opens. -/
theorem pieces_append_of_open {front name : List Char} (hname : IsIconName name)
    (hopen : leavesOpen front = true) (rest : List Char) :
    ∃ (ps : List Piece) (mid : List Char),
      front = ps.flatMap (Piece.source iconOpening) ++ (iconOpening ++ mid) ∧
      IsInner (mid ++ (iconOpening ++ name)) ∧
      pieces iconOpening (front ++ ((Token.icon name).source ++ rest)) =
        ps ++ .slot (mid ++ (iconOpening ++ name)) :: pieces iconOpening rest := by
  rw [source_icon_append]
  fun_induction pieces iconOpening front with
  | case1 front inner after h ih =>
    rw [leavesOpen_of_slot? h] at hopen
    obtain ⟨ps, mid, rfl, hinner, hpieces⟩ := ih hopen
    refine ⟨.slot inner :: ps, mid, ?_, hinner, ?_⟩
    · rw [slot?_eq_append h]
      simp [Piece.source]
    · rw [pieces_of_slot? (slot?_append h _), hpieces, List.cons_append]
  | case2 => simp [leavesOpen_nil] at hopen
  | case3 c front hnone ih =>
    by_cases hsome : slot? iconOpening
        (c :: (front ++ (iconOpening ++ (name ++ (closing ++ rest))))) = none
    · rcases (leavesOpen_of_no_slot hnone).mp hopen with hfront | ⟨hstart, hline⟩
      · obtain ⟨ps, mid, rfl, hinner, hpieces⟩ := ih hfront
        refine ⟨consPlain c ps, mid, ?_, hinner, ?_⟩
        · rw [flatMap_source_consPlain, List.cons_append]
        · rw [List.cons_append, pieces_of_no_slot hsome, hpieces, consPlain_append_slot]
      · -- The closing mark of the icon slot would close the opening mark.
        obtain ⟨mid, hmid⟩ := hstart
        rw [← hmid, oneLine_append] at hline
        have hne : mid ++ (iconOpening ++ name) ≠ [] := by simp [hname.ne_nil]
        have hinner : OneLine (mid ++ (iconOpening ++ name)) :=
          oneLine_append.mpr ⟨hline.2, oneLine_append.mpr ⟨oneLine_iconOpening, hname.oneLine⟩⟩
        refine absurd ?_ (slot?_ne_none hne hinner iconOpening rest)
        rw [← List.cons_append, ← hmid] at hsome
        simpa using hsome
    · obtain ⟨⟨inner, after⟩, hslot⟩ := Option.ne_none_iff_exists'.mp hsome
      rcases slot?_append_icon (c :: front) hname hslot with ⟨after', h⟩ | ⟨heq, rfl⟩
      · rw [hnone] at h
        exact absurd h (by simp)
      · obtain ⟨mid, hmid⟩ := iconOpening_prefix_of_append (by simp) heq
        obtain rfl : mid ++ (iconOpening ++ name) = inner := by
          rw [← hmid, List.append_assoc] at heq
          exact List.append_cancel_left heq
        refine ⟨[], mid, hmid.symm, (slot?_eq_some_iff.mp hslot).2, ?_⟩
        rw [List.cons_append, pieces_of_slot? hslot, List.nil_append]

end Captions.Template

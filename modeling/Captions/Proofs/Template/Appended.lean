import Captions.Proofs.Template.IconSlots
import Captions.Proofs.Template.SlotPlaces

/-!
# Text behind a text

Text that is put behind a text may close a mark that was left open, and so make a slot that begins
in the text. But no slot that was there is lost or changed: a mark that is left open on the last
line has all the slots in front of it, and a mark on a line before opens no slot at all.

Results:
* `slotPlaces_eq_nil_of_reaching`: behind a mark that the appended text closes there was no slot.
* `exists_slotPlaces_append`: the slots of a text are the first ones of every longer text, and all
  others end behind it.
* `goesOn_slots_append`: the same for the slots of a template and the icon slots of a caption.
-/

namespace Captions.Template

open Text

/-! ## Slots that end behind a text -/

section Behind

variable {opening : List Char}

theorem placesFrom_eq_nil (offset : ℕ) {ps : List Piece} (h : ∀ inner, .slot inner ∉ ps) :
    placesFrom opening offset ps = [] := by
  induction ps generalizing offset with
  | nil => rfl
  | cons p ps ih =>
    cases p with
    | plain text => exact ih _ fun inner hmem => h inner (List.mem_cons_of_mem _ hmem)
    | slot inner => exact absurd List.mem_cons_self (h inner)

theorem le_of_mem_placesFrom {offset : ℕ} {ps : List Piece} {s : ℕ × List Char}
    (h : s ∈ placesFrom opening offset ps) : offset ≤ s.1 := by
  induction ps generalizing offset with
  | nil => exact absurd h List.not_mem_nil
  | cons p ps ih =>
    cases p with
    | plain text => exact Nat.le_of_add_right_le (ih h)
    | slot inner =>
      rcases List.mem_cons.mp h with rfl | h
      · exact Nat.le_refl _
      · exact Nat.le_of_add_right_le (ih h)

theorem pairwise_placesFrom (offset : ℕ) (ps : List Piece) :
    (placesFrom opening offset ps).Pairwise fun s s' =>
      s.1 + byteSize (opening ++ s.2 ++ closing) ≤ s'.1 := by
  induction ps generalizing offset with
  | nil => exact .nil
  | cons p ps ih =>
    cases p with
    | plain text => exact ih _
    | slot inner => exact .cons (fun s hs => le_of_mem_placesFrom hs) (ih _)

theorem length_le_of_slot_mem {cs inner : List Char} (h : .slot inner ∈ pieces opening cs) :
    opening.length ≤ cs.length := by
  obtain ⟨as, bs, hps⟩ := List.append_of_mem h
  have hsource := congrArg List.length (flatMap_source_pieces opening cs)
  rw [hps] at hsource
  simp [Piece.source] at hsource
  omega

/-- A slot that begins in front of some text and reaches over its end leaves no slot in it: what the
slot goes over is on one line, and the first closing mark there would have closed it. -/
theorem slotPlaces_eq_nil_of_reaching (hopening : OneLine opening) (offset : ℕ) {c : Char}
    {text m inner : List Char} (hnone : slot? opening (c :: text) = none) (hinner : OneLine inner)
    (hreach : c :: text ++ m = opening ++ (inner ++ closing)) :
    slotPlaces opening offset text = [] := by
  refine placesFrom_eq_nil offset fun name hmem => ?_
  have hline : OneLine (c :: text ++ m) := by
    rw [hreach, oneLine_append, oneLine_append]
    exact ⟨hopening, hinner, oneLine_closing⟩
  have hlength : opening.length ≤ (c :: text).length :=
    Nat.le_succ_of_le (length_le_of_slot_mem hmem)
  have hstart : opening <+: c :: text :=
    List.prefix_of_prefix_length_le ⟨_, hreach.symm⟩ (List.prefix_append _ m) hlength
  exact not_oneLine_of_slot_mem hnone hmem hstart (oneLine_append.mp hline).1

theorem byteSize_mark_pos (opening inner : List Char) :
    0 < byteSize (opening ++ inner ++ closing) := by
  have hpos : 0 < byteSize closing := by decide
  rw [byteSize_append]
  omega

/-- The slots of a text are the first ones of every longer text, and all others end behind it. -/
theorem exists_slotPlaces_append (hopening : OneLine opening) (offset : ℕ) (as bs : List Char) :
    ∃ added, slotPlaces opening offset (as ++ bs) = slotPlaces opening offset as ++ added ∧
      ∀ s ∈ added, offset + byteSize as < s.1 + byteSize (opening ++ s.2 ++ closing) := by
  fun_induction pieces opening as generalizing offset with
  | case1 as inner after h ih =>
    obtain ⟨added, hadded, hbehind⟩ :=
      ih (offset + byteSize (opening ++ inner ++ closing))
    have hsize : byteSize as = byteSize (opening ++ inner ++ closing) + byteSize after := by
      rw [slot?_eq_append h, ← byteSize_append]
      simp
    refine ⟨added, ?_, fun s hs => ?_⟩
    · rw [slotPlaces_of_slot? _ (slot?_append h bs), slotPlaces_of_slot? _ h, hadded,
        List.cons_append]
    · have := hbehind s hs
      omega
  | case2 =>
    refine ⟨slotPlaces opening offset bs, by simp, fun s hs => ?_⟩
    have hle := le_of_mem_placesFrom hs
    have hpos := byteSize_mark_pos opening s.2
    rw [byteSize_nil]
    omega
  | case3 c text hnone ih =>
    cases hslot : slot? opening (c :: (text ++ bs)) with
    | none =>
      obtain ⟨added, hadded, hbehind⟩ := ih (offset + c.utf8Size)
      refine ⟨added, ?_, fun s hs => ?_⟩
      · rw [List.cons_append, slotPlaces_of_no_slot _ hslot, slotPlaces_of_no_slot _ hnone, hadded]
      · have := hbehind s hs
        rw [byteSize_cons]
        omega
    | some found =>
      -- The slot that `bs` closes takes in all the rest of the text.
      obtain ⟨inner, after⟩ := found
      obtain ⟨m, hne, hreach, rfl⟩ := exists_of_slot?_append (v := c :: text) hnone hslot
      have hinner := (slot?_eq_some_iff.mp hslot).2
      have hsize : byteSize (c :: text) < byteSize (opening ++ inner ++ closing) := by
        have hpos : 0 < byteSize m := Nat.pos_of_ne_zero (mt byteSize_eq_zero_iff.mp hne)
        have := congrArg byteSize hreach
        rw [byteSize_append] at this
        rw [List.append_assoc, ← this]
        omega
      refine ⟨slotPlaces opening offset (c :: (text ++ (m ++ after))), ?_, fun s hs => ?_⟩
      · rw [List.cons_append, slotPlaces_of_no_slot _ hnone,
          slotPlaces_eq_nil_of_reaching hopening _ hnone hinner.oneLine hreach, List.nil_append]
      · rw [slotPlaces_of_slot? _ hslot] at hs
        rcases List.mem_cons.mp hs with rfl | hs
        · exact Nat.add_lt_add_left hsize offset
        · have hle := le_of_mem_placesFrom hs
          omega

end Behind

/-! ## Slots of a longer text -/

/-- The slots `qs` are the slots `ps` of a text of the given size and then others, which begin
behind them and end behind the text. -/
def GoesOn (size : ℕ) (ps qs : List Placed) : Prop :=
  ∃ added, qs = ps ++ added ∧
    ∀ q ∈ added, size < q.stop ∧ ∀ p ∈ ps, p.stop ≤ q.start

theorem goesOn_map_slotPlaces {opening : List Char} (hopening : OneLine opening)
    {toToken : List Char → Token}
    (hsource : ∀ inner, (toToken inner).source = opening ++ inner ++ closing) (as bs : List Char) :
    let place (s : ℕ × List Char) : Placed := ⟨s.1, toToken s.2⟩
    GoesOn (byteSize as) ((slotPlaces opening 0 as).map place)
      ((slotPlaces opening 0 (as ++ bs)).map place) := by
  intro place
  have hstop : ∀ s, (place s).stop = s.1 + byteSize (opening ++ s.2 ++ closing) := fun s => by
    rw [Placed.stop, hsource]
  obtain ⟨added, hadded, hbehind⟩ := exists_slotPlaces_append hopening 0 as bs
  have hpairwise : (slotPlaces opening 0 (as ++ bs)).Pairwise _ := pairwise_placesFrom 0 _
  rw [hadded, List.pairwise_append] at hpairwise
  refine ⟨added.map place, by rw [hadded, List.map_append], fun q hq => ?_⟩
  obtain ⟨s, hs, rfl⟩ := List.mem_map.mp hq
  refine ⟨?_, fun p hp => ?_⟩
  · have := hbehind s hs
    rw [hstop]
    omega
  · obtain ⟨s', hs', rfl⟩ := List.mem_map.mp hp
    rw [hstop]
    exact hpairwise.2.2 s' hs' s hs

/-- **Slots stay when text is put behind them.** The slots of a template, and the icon slots of a
caption, are the first ones of every longer text, at their places; what is added begins behind the
last of them and ends behind the text that was there. -/
theorem goesOn_slots_append (as bs : List Char) :
    GoesOn (byteSize as) (slots as) (slots (as ++ bs)) ∧
      GoesOn (byteSize as) (iconSlots as) (iconSlots (as ++ bs)) := by
  rw [slots_eq_map, slots_eq_map, iconSlots_eq_map, iconSlots_eq_map]
  exact ⟨goesOn_map_slotPlaces oneLine_opening Token.source_ofInner as bs,
    goesOn_map_slotPlaces oneLine_iconOpening (fun _ => rfl) as bs⟩

/-- A mark at the end of a text takes in what is put behind it; the slot in front of it stays. -/
example :
    let cs := "{{a}}".toList ++ iconOpening
    slots cs = [⟨0, .argument ['a']⟩] ∧ iconSlots cs = [] ∧
      slots (cs ++ "{{b}}".toList) =
        [⟨0, .argument ['a']⟩, ⟨5, .icon (opening ++ ['b'])⟩] ∧
      iconSlots (cs ++ "{{b}}".toList) = [⟨5, .icon (opening ++ ['b'])⟩] := by
  decide +kernel

end Captions.Template

import Captions.Proofs.Template.Reading

/-!
# Where the slots of a text stand

The slots of a text for any opening mark, each with the byte at which it starts. A text in two parts
has the slots of its parts, those of the second one moved by the size of the first, as long as no
slot begins in the first part and ends in the second.

Results:
* `parts_induction`: induction over the first part of such a text.
* `slotPlaces_append`: the slots of a text in two parts.
* `slots_eq_map`, `iconSlots_eq_map`: the slots of a template and the icon slots of a caption.
-/

namespace Captions.Template

open Text

/-- Where the slots among the pieces start, and what stands between their marks; the first piece
starts at `offset`. -/
def placesFrom (opening : List Char) (offset : ℕ) : List Piece → List (ℕ × List Char)
  | [] => []
  | .plain text :: ps => placesFrom opening (offset + byteSize text) ps
  | .slot inner :: ps =>
    (offset, inner) :: placesFrom opening (offset + byteSize (opening ++ inner ++ closing)) ps

/-- Where the slots of a text start, and what stands between their marks; the text itself starts at
`offset`. -/
def slotPlaces (opening : List Char) (offset : ℕ) (cs : List Char) : List (ℕ × List Char) :=
  placesFrom opening offset (pieces opening cs)

section Parts

variable {opening : List Char} (offset : ℕ)

@[simp]
theorem slotPlaces_nil : slotPlaces opening offset [] = [] := by
  rw [slotPlaces, pieces_nil]
  rfl

theorem slotPlaces_of_slot? {cs inner rest : List Char}
    (h : slot? opening cs = some (inner, rest)) :
    slotPlaces opening offset cs =
      (offset, inner) ::
        slotPlaces opening (offset + byteSize (opening ++ inner ++ closing)) rest := by
  rw [slotPlaces, pieces_of_slot? h]
  rfl

theorem slotPlaces_of_no_slot {c : Char} {rest : List Char}
    (h : slot? opening (c :: rest) = none) :
    slotPlaces opening offset (c :: rest) = slotPlaces opening (offset + c.utf8Size) rest := by
  rw [slotPlaces, slotPlaces, pieces_of_no_slot h]
  rcases pieces opening rest with _ | ⟨text | inner, ps⟩
  · rfl
  · simp only [consPlain, placesFrom, byteSize_cons, Nat.add_assoc]
  · rfl

/-- Induction over a text in front of `rest`, slot by slot and otherwise character by character,
when no slot begins in the text and ends in `rest`: then the slots of the text stay where they
were. -/
theorem parts_induction {text rest : List Char} {motive : List Char → Prop}
    (h : ∀ v, v ≠ [] → v <:+ text → slot? opening v = none → slot? opening (v ++ rest) = none)
    (nil : motive [])
    (slot : ∀ text inner after, slot? opening text = some (inner, after) →
      slot? opening (text ++ rest) = some (inner, after ++ rest) → motive after → motive text)
    (plain : ∀ c text, slot? opening (c :: text) = none →
      slot? opening (c :: (text ++ rest)) = none → motive text → motive (c :: text)) :
    motive text := by
  fun_induction pieces opening text with
  | case1 text inner after hslot ih =>
    have hafter : after <:+ text := by
      rw [slot?_eq_append hslot, ← List.append_assoc]
      exact List.suffix_append _ after
    have hrest := ih fun v hne hv => h v hne (hv.trans hafter)
    exact slot text inner after hslot (slot?_append hslot rest) hrest
  | case2 => exact nil
  | case3 c text hnone ih =>
    have hrest := ih fun v hne hv => h v hne (hv.trans (List.suffix_cons c text))
    exact plain c text hnone (h (c :: text) (by simp) List.suffix_rfl hnone) hrest

/-- The slots of a text in two parts are those of its parts when no slot begins in the first part
and ends in the second one. -/
theorem slotPlaces_append {text rest : List Char}
    (h : ∀ v, v ≠ [] → v <:+ text → slot? opening v = none → slot? opening (v ++ rest) = none) :
    slotPlaces opening offset (text ++ rest) =
      slotPlaces opening offset text ++ slotPlaces opening (offset + byteSize text) rest := by
  refine parts_induction (motive := fun text => ∀ offset,
    slotPlaces opening offset (text ++ rest) =
      slotPlaces opening offset text ++ slotPlaces opening (offset + byteSize text) rest)
    h ?nil ?slot ?plain offset
  case nil =>
    intro offset
    simp
  case slot =>
    intro text inner after hslot hslot' ih offset
    have hsize : byteSize text = byteSize (opening ++ inner ++ closing) + byteSize after := by
      rw [slot?_eq_append hslot, ← byteSize_append]
      simp
    rw [slotPlaces_of_slot? _ hslot', slotPlaces_of_slot? _ hslot, hsize, ih, List.cons_append,
      Nat.add_assoc]
  case plain =>
    intro c text hnone hnone' ih offset
    rw [List.cons_append, slotPlaces_of_no_slot _ hnone', slotPlaces_of_no_slot _ hnone, ih,
      byteSize_cons, Nat.add_assoc]

/-- A text in which no slot begins has none. -/
theorem slotPlaces_eq_nil {text : List Char}
    (h : ∀ v, v ≠ [] → v <:+ text → slot? opening v = none) :
    slotPlaces opening offset text = [] := by
  induction text generalizing offset with
  | nil => exact slotPlaces_nil offset
  | cons c text ih =>
    rw [slotPlaces_of_no_slot _ (h (c :: text) (by simp) List.suffix_rfl)]
    exact ih _ fun v hne hv => h v hne (hv.trans (List.suffix_cons c text))

/-- Where no slot begins in `text`, all slots are behind it. -/
theorem slotPlaces_append_of_no_slot {text rest : List Char}
    (h : ∀ v, v ≠ [] → v <:+ text → slot? opening (v ++ rest) = none) :
    slotPlaces opening offset (text ++ rest) =
      slotPlaces opening (offset + byteSize text) rest := by
  have hnone : ∀ v, v ≠ [] → v <:+ text → slot? opening v = none :=
    fun v hne hv => slot?_eq_none_of_append (h v hne hv)
  rw [slotPlaces_append offset fun v hne hv _ => h v hne hv, slotPlaces_eq_nil offset hnone,
    List.nil_append]

end Parts

/-! ## Tokens with their places -/

theorem filter_isSlot_placed {opening : List Char} {toToken : Piece → Token}
    (hsource : ∀ p, (toToken p).source = p.source opening)
    (hslot : ∀ p, (toToken p).isSlot = !p.isPlain) (offset : ℕ) (ps : List Piece) :
    (placed offset (ps.map toToken)).filter (·.token.isSlot) =
      (placesFrom opening offset ps).map fun s => ⟨s.1, toToken (.slot s.2)⟩ := by
  induction ps generalizing offset with
  | nil => rfl
  | cons p ps ih =>
    rw [List.map_cons, placed, List.filter_cons, hslot, ih, hsource]
    cases p with
    | plain text => rfl
    | slot inner => rfl

theorem isSlot_toToken (p : Piece) : p.toToken.isSlot = !p.isPlain := by
  cases p with
  | plain text => rfl
  | slot inner => exact makesTokens_toToken.isSlot_slot inner

theorem isSlot_toIconToken (p : Piece) : p.toIconToken.isSlot = !p.isPlain := by
  cases p with
  | plain text => rfl
  | slot name => rfl

/-- The slots of a template, each the one that its inner text tells. -/
theorem slots_eq_map (cs : List Char) :
    slots cs = (slotPlaces opening 0 cs).map fun s => ⟨s.1, .ofInner s.2⟩ :=
  filter_isSlot_placed Piece.source_toToken isSlot_toToken 0 (pieces opening cs)

/-- The icon slots of a caption. -/
theorem iconSlots_eq_map (cs : List Char) :
    iconSlots cs = (slotPlaces iconOpening 0 cs).map fun s => ⟨s.1, .icon s.2⟩ :=
  filter_isSlot_placed Piece.source_toIconToken isSlot_toIconToken 0 (pieces iconOpening cs)

end Captions.Template

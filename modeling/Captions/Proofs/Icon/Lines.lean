import Captions.Proofs.Icon.Fragments
import Captions.Proofs.Template.IconSlots
import Captions.Proofs.Template.SlotPlaces

/-!
# Captions line by line

No slot reaches over the end of a line. So a text is read line by line, as a template and as a
caption, and a caption is resolved line by line: what comes of a line does not depend on the lines
around it, but for the places of its glyphs, which move with the text in front.

Results:
* `slot?_append_lineEnd`: no slot begins in front of the end of a line and ends behind it.
* `slots_append_lineEnd`, `iconSlots_append_lineEnd`: the slots of a text, line by line.
* `resolution_append`: where no slot reaches from one part of a caption into the other, they are
  resolved on their own.
* `resolve_lineEnd`: reading and resolving go line by line.
-/

namespace Captions

open Template Text

/-! ## Slots line by line -/

namespace Template

section Lines

variable {c : Char} (hc : isLineBreak c = true)

include hc

/-- No slot begins in front of the end of a line and ends behind it. -/
theorem slot?_append_lineEnd {opening v : List Char} (hopening : OneLine opening)
    (hnone : slot? opening v = none) (rest : List Char) :
    slot? opening (v ++ c :: rest) = none := by
  by_contra hsome
  obtain ⟨⟨inner, after⟩, hslot⟩ := Option.ne_none_iff_exists'.mp hsome
  obtain ⟨m, hne, hm, hrest⟩ := exists_of_slot?_append hnone hslot
  obtain ⟨d, m, rfl⟩ := List.exists_cons_of_ne_nil hne
  obtain ⟨rfl, -⟩ := List.cons.inj hrest
  -- The slot would reach over the end of the line.
  have hline : OneLine (opening ++ (inner ++ closing)) := by
    rw [oneLine_append, oneLine_append]
    exact ⟨hopening, (slot?_eq_some_iff.mp hslot).2.oneLine, oneLine_closing⟩
  have hd := hline c (by simp [← hm])
  rw [hc] at hd
  contradiction

theorem slotPlaces_append_lineEnd {opening : List Char} (hopening : OneLine opening) (offset : ℕ)
    (as bs : List Char) :
    slotPlaces opening offset (as ++ c :: bs) =
      slotPlaces opening offset as ++ slotPlaces opening (offset + byteSize (as ++ [c])) bs := by
  have hbreak : slot? opening (c :: bs) = none :=
    slot?_append_lineEnd hc hopening (slot?_nil opening) bs
  rw [slotPlaces_append offset fun v _ _ hnone => slot?_append_lineEnd hc hopening hnone bs,
    slotPlaces_of_no_slot _ hbreak, byteSize_append, byteSize_cons, byteSize_nil, Nat.add_zero,
    Nat.add_assoc]

omit hc in
/-- Text in front moves every slot by as many bytes. -/
theorem slotPlaces_shift (opening : List Char) (offset base : ℕ) (cs : List Char) :
    slotPlaces opening (offset + base) cs =
      (slotPlaces opening base cs).map fun s => (offset + s.1, s.2) := by
  unfold slotPlaces
  induction pieces opening cs generalizing base with
  | nil => rfl
  | cons p ps ih =>
    cases p with
    | plain text => rw [placesFrom, placesFrom, Nat.add_assoc, ih]
    | slot inner => rw [placesFrom, placesFrom, Nat.add_assoc, ih, List.map_cons]

/-- Whatever the slots of a text stand for, they are placed line by line. -/
theorem map_slotPlaces_append_lineEnd {opening : List Char} (hopening : OneLine opening)
    (toToken : List Char → Token) (as bs : List Char) :
    let place (s : ℕ × List Char) : Placed := ⟨s.1, toToken s.2⟩
    (slotPlaces opening 0 (as ++ c :: bs)).map place =
      (slotPlaces opening 0 as).map place ++
        ((slotPlaces opening 0 bs).map place).map (Placed.shift (byteSize (as ++ [c]))) := by
  intro place
  have hshift := slotPlaces_shift opening (byteSize (as ++ [c])) 0 bs
  rw [Nat.add_zero] at hshift
  rw [slotPlaces_append_lineEnd hc hopening, Nat.zero_add, hshift, List.map_append, List.map_map,
    List.map_map]
  rfl

/-- The slots of a template line by line. -/
theorem slots_append_lineEnd (as bs : List Char) :
    slots (as ++ c :: bs) =
      slots as ++ (slots bs).map (Placed.shift (byteSize (as ++ [c]))) := by
  rw [slots_eq_map, slots_eq_map, slots_eq_map]
  exact map_slotPlaces_append_lineEnd hc oneLine_opening .ofInner as bs

/-- The icon slots of a caption line by line. -/
theorem iconSlots_append_lineEnd (as bs : List Char) :
    iconSlots (as ++ c :: bs) =
      iconSlots as ++ (iconSlots bs).map (Placed.shift (byteSize (as ++ [c]))) := by
  rw [iconSlots_eq_map, iconSlots_eq_map, iconSlots_eq_map]
  exact map_slotPlaces_append_lineEnd hc oneLine_iconOpening .icon as bs

end Lines

end Template

namespace Icons

/-! ## Pieces of a caption -/

/-- What the pieces of a caption are resolved to. -/
def ofPieces (icons : Icons) (ps : List Piece) : Resolved :=
  ofFragments icons.scale (ps.map fun p => fragment icons.table p.toIconToken)

variable {icons : Icons}

theorem ofPieces_nil : icons.ofPieces [] = Resolved.plain "" := rfl

theorem ofPieces_cons (p : Piece) (ps : List Piece) :
    icons.ofPieces (p :: ps) = icons.ofPieces [p] ++ icons.ofPieces ps := by
  unfold ofPieces
  exact ofFragments_append icons.scale [fragment icons.table p.toIconToken] _

theorem ofPieces_plain (text : List Char) :
    icons.ofPieces [.plain text] = Resolved.plain (String.ofList text) := by
  show Resolved.mk (String.ofList (text ++ [])) [] [] = _
  rw [List.append_nil]
  rfl

theorem ofPieces_consPlain (c : Char) (ps : List Piece) :
    icons.ofPieces (consPlain c ps) =
      Resolved.plain (String.singleton c) ++ icons.ofPieces ps := by
  unfold consPlain
  split
  · next text ps =>
    rw [ofPieces_cons, ofPieces_cons (.plain text), ofPieces_plain, ofPieces_plain,
      String.ofList_cons, Resolved.plain_append, Resolved.append_assoc]
  · rw [ofPieces_cons, ofPieces_plain, String.singleton_eq_ofList]

theorem resolution_of_enabled (henabled : icons.enabled = true) (caption : String) :
    icons.resolution caption = icons.ofPieces (pieces iconOpening caption.toList) := by
  unfold resolution ofPieces fragments iconTokens
  rw [if_pos henabled, List.map_map]
  rfl

/-! ## Captions part by part -/

/-- Where no slot begins in `text` and ends in `rest`, both are resolved on their own. -/
theorem ofPieces_pieces_append {text rest : List Char}
    (h : ∀ v, v ≠ [] → v <:+ text → slot? iconOpening v = none →
      slot? iconOpening (v ++ rest) = none) :
    icons.ofPieces (pieces iconOpening (text ++ rest)) =
      icons.ofPieces (pieces iconOpening text) ++ icons.ofPieces (pieces iconOpening rest) := by
  refine parts_induction (motive := fun text =>
    icons.ofPieces (pieces iconOpening (text ++ rest)) =
      icons.ofPieces (pieces iconOpening text) ++ icons.ofPieces (pieces iconOpening rest))
    h ?nil ?slot ?plain
  case nil => rw [List.nil_append, pieces_nil, ofPieces_nil, Resolved.plain_empty_append]
  case slot =>
    intro text inner after hslot hslot' ih
    rw [pieces_of_slot? hslot', pieces_of_slot? hslot, ofPieces_cons,
      ofPieces_cons _ (pieces _ after), ih, Resolved.append_assoc]
  case plain =>
    intro c text hnone hnone' ih
    rw [List.cons_append, pieces_of_no_slot hnone', pieces_of_no_slot hnone, ofPieces_consPlain,
      ofPieces_consPlain, ih, Resolved.append_assoc]

theorem resolution_append {caption more : String}
    (h : ∀ v, v ≠ [] → v <:+ caption.toList → slot? iconOpening v = none →
      slot? iconOpening (v ++ more.toList) = none) :
    icons.resolution (caption ++ more) = icons.resolution caption ++ icons.resolution more := by
  cases henabled : icons.enabled with
  | false =>
    rw [resolution_disabled henabled, resolution_disabled henabled, resolution_disabled henabled,
      Resolved.plain_append]
  | true =>
    rw [resolution_of_enabled henabled, resolution_of_enabled henabled,
      resolution_of_enabled henabled, String.toList_append, ofPieces_pieces_append h]

section Lines

variable {c : Char} (hc : isLineBreak c = true)

include hc

theorem resolution_lineEnd (icons : Icons) :
    icons.resolution (String.singleton c) = Resolved.plain (String.singleton c) := by
  cases henabled : icons.enabled with
  | false => exact resolution_disabled henabled _
  | true =>
    have hbreak : slot? iconOpening [c] = none :=
      slot?_append_lineEnd hc oneLine_iconOpening (slot?_nil iconOpening) []
    rw [resolution_of_enabled henabled, String.toList_singleton, pieces_of_no_slot hbreak,
      pieces_nil, ofPieces_consPlain, ofPieces_nil, ← Resolved.plain_append, String.append_empty]

theorem resolution_append_lineEnd (icons : Icons) (a b : String) :
    icons.resolution (a ++ String.singleton c ++ b) =
      icons.resolution a ++ Resolved.plain (String.singleton c) ++ icons.resolution b := by
  have hrest : (String.singleton c ++ b).toList = c :: b.toList := by
    rw [String.toList_append, String.toList_singleton, List.singleton_append]
  have hfront : icons.resolution (a ++ (String.singleton c ++ b)) =
      icons.resolution a ++ icons.resolution (String.singleton c ++ b) := by
    apply resolution_append
    intro v _ _ hnone
    rw [hrest]
    exact slot?_append_lineEnd hc oneLine_iconOpening hnone b.toList
  have hrear : icons.resolution (String.singleton c ++ b) =
      icons.resolution (String.singleton c) ++ icons.resolution b := by
    apply resolution_append
    intro v hne hv _
    rw [String.toList_singleton] at hv
    obtain rfl : v = [c] := (List.suffix_cons_iff.mp hv).resolve_right (by simp [hne])
    exact slot?_append_lineEnd hc oneLine_iconOpening (slot?_nil iconOpening) b.toList
  rw [String.append_assoc, hfront, hrear, resolution_lineEnd hc, Resolved.append_assoc]

end Lines

/-- **Reading and resolving go line by line.** A text parted at the end of a line has the slots of
both parts, as a template and as a caption, those of the second part moved by the bytes of the first
one. And so it is resolved: the texts and the names reported are those of the parts one behind the
other, and the glyphs too, those of the second part moved by what the first one has become. -/
theorem resolve_lineEnd {c : Char} (hc : isLineBreak c = true) (a b : String) :
    let line := a ++ String.singleton c
    slots (line ++ b).toList =
        slots a.toList ++ (slots b.toList).map (Placed.shift line.utf8ByteSize) ∧
      iconSlots (line ++ b).toList =
        iconSlots a.toList ++ (iconSlots b.toList).map (Placed.shift line.utf8ByteSize) ∧
      ∀ icons : Icons,
        let shown := (icons.resolve a).value.text ++ String.singleton c
        (icons.resolve (line ++ b)).value =
          { text := shown ++ (icons.resolve b).value.text
            spans := (icons.resolve a).value.spans ++
              (icons.resolve b).value.spans.map (Span.shift shown.utf8ByteSize)
            unresolved := (icons.resolve a).value.unresolved ++
              (icons.resolve b).value.unresolved } := by
  intro line
  have hsize : line.utf8ByteSize = byteSize (a.toList ++ [c]) := by
    rw [← utf8ByteSize_ofList, String.ofList_append, String.ofList_toList,
      ← String.singleton_eq_ofList]
  have hlist : (line ++ b).toList = a.toList ++ c :: b.toList := by
    rw [String.toList_append, String.toList_append, String.toList_singleton, List.append_assoc,
      List.singleton_append]
  refine ⟨?_, ?_, fun icons => ?_⟩
  · rw [hlist, hsize, slots_append_lineEnd hc]
  · rw [hlist, hsize, iconSlots_append_lineEnd hc]
  · simp only [value_resolve]
    rw [resolution_append_lineEnd hc, Resolved.append_eq, Resolved.append_eq]
    simp only [Resolved.plain, List.map_nil, List.append_nil]

/-- An opening mark that is left open at the end of a line, with a closing mark on the next one. -/
theorem resolve_lineEnd_open :
    let a := "é{{icon:undo}}\x7b\x7bicon:"
    let b := "x\x7d\x7d{{n}}{{icon:redo}}"
    let icons := Icons.ofTable .materialDesign
    isLineBreak '\u2028' = true ∧
      slots (a ++ String.singleton '\u2028' ++ b).toList =
        [⟨2, .icon "undo".toList⟩, ⟨28, .argument ['n']⟩, ⟨33, .icon "redo".toList⟩] ∧
      iconSlots (a ++ String.singleton '\u2028' ++ b).toList =
        [⟨2, .icon "undo".toList⟩, ⟨33, .icon "redo".toList⟩] ∧
      (icons.resolve (a ++ String.singleton '\u2028' ++ b)).value.spans.map
          (fun s => (s.start, s.stop, s.name)) =
        [(2, 6, "undo"), (24, 28, "redo")] := by
  intro a b icons
  obtain ⟨hslots, hicons, hresolve⟩ := resolve_lineEnd (c := '\u2028') rfl a b
  refine ⟨rfl, hslots.trans ?_, hicons.trans ?_, ?_⟩
  · decide +kernel
  · decide +kernel
  · rw [hresolve icons]
    decide +kernel

end Icons

end Captions

import Captions.Text.Size

/-!
# Cutting a text at bytes

Places in a text are counted in bytes, and not at every byte does a character begin. A stretch can
be cut out of a text if it lies in the text, does not stop before it starts, and divides no
character.

Results:
* `extract_toByteArray_ofList`: the bytes between two places.
* `cut_eq_ok_iff`: what is cut out is what stands between the text before it and the text behind.
* `exists_cut_eq_ok_iff`: a stretch can be cut out exactly when it lies in the text.
-/

namespace Captions.Text

/-! ## Bytes of a text -/

theorem size_toByteArray_ofList (cs : List Char) :
    (String.ofList cs).toByteArray.size = byteSize cs := by
  rw [String.size_toByteArray, utf8ByteSize_ofList]

theorem toByteArray_ofList_append (as bs : List Char) :
    (String.ofList (as ++ bs)).toByteArray =
      (String.ofList as).toByteArray ++ (String.ofList bs).toByteArray := by
  rw [String.ofList_append, String.toByteArray_append]

/-- The bytes of a text behind some text and in front of some other. -/
theorem extract_toByteArray_ofList (as bs cs : List Char) :
    (String.ofList (as ++ (bs ++ cs))).toByteArray.extract (byteSize as)
        (byteSize as + byteSize bs) =
      (String.ofList bs).toByteArray := by
  have hsplit := toByteArray_ofList_append as (bs ++ cs)
  rw [toByteArray_ofList_append bs cs] at hsplit
  rw [hsplit, ← size_toByteArray_ofList, ← size_toByteArray_ofList]
  generalize (String.ofList as).toByteArray = a
  generalize (String.ofList bs).toByteArray = b
  have hfront : (a ++ (b ++ (String.ofList cs).toByteArray)).extract (a.size + 0)
      (a.size + b.size) = (b ++ (String.ofList cs).toByteArray).extract 0 b.size :=
    ByteArray.extract_append_size_add
  rw [Nat.add_zero] at hfront
  rw [hfront, ByteArray.extract_append_eq_left rfl]

theorem isValid_byteSize (as bs : List Char) :
    (⟨byteSize as⟩ : String.Pos.Raw).IsValid (String.ofList (as ++ bs)) := by
  refine String.Pos.Raw.isValid_iff_exists_append.mpr ⟨.ofList as, .ofList bs, ?_, ?_⟩
  · exact String.ofList_append
  · rw [String.Pos.Raw.ext_iff, String.byteIdx_rawEndPos, utf8ByteSize_ofList]

theorem utf8ByteSize_eq_byteSize (text : String) : text.utf8ByteSize = byteSize text.toList := by
  rw [← utf8ByteSize_ofList, String.ofList_toList]

/-- A place between two characters parts the text. -/
theorem isValid_iff_exists_append {text : String} {place : Nat} :
    (⟨place⟩ : String.Pos.Raw).IsValid text ↔
      ∃ before after, text.toList = before ++ after ∧ byteSize before = place := by
  constructor
  · intro h
    obtain ⟨s, t, rfl, hplace⟩ := String.Pos.Raw.isValid_iff_exists_append.mp h
    refine ⟨s.toList, t.toList, String.toList_append, ?_⟩
    rw [← utf8ByteSize_eq_byteSize]
    exact (congrArg String.Pos.Raw.byteIdx hplace).symm
  · rintro ⟨before, after, htext, rfl⟩
    have hvalid := isValid_byteSize before after
    rwa [← htext, String.ofList_toList] at hvalid

/-! ## Stretches -/

/-- A stretch of a text, by the bytes where it starts and where it stops. -/
structure Stretch where
  start : Nat
  stop : Nat
deriving DecidableEq, Repr

/-- The stretch can be cut out of the text. -/
structure Stretch.LiesIn (s : Stretch) (text : String) : Prop where
  start_le_stop : s.start ≤ s.stop
  stop_le_size : s.stop ≤ text.utf8ByteSize
  /-- No character is divided where the stretch starts. -/
  isValid_start : (⟨s.start⟩ : String.Pos.Raw).IsValid text
  isValid_stop : (⟨s.stop⟩ : String.Pos.Raw).IsValid text

instance (s : Stretch) (text : String) : Decidable (s.LiesIn text) :=
  decidable_of_iff (s.start ≤ s.stop ∧ s.stop ≤ text.utf8ByteSize ∧
      (⟨s.start⟩ : String.Pos.Raw).IsValid text ∧ (⟨s.stop⟩ : String.Pos.Raw).IsValid text)
    ⟨fun ⟨hle, hsize, hstart, hstop⟩ => ⟨hle, hsize, hstart, hstop⟩,
      fun ⟨hle, hsize, hstart, hstop⟩ => ⟨hle, hsize, hstart, hstop⟩⟩

theorem Stretch.liesIn_iff {start stop : Nat} {text : String} :
    (Stretch.mk start stop).LiesIn text ↔
      ∃ before cs after, text.toList = before ++ (cs ++ after) ∧ byteSize before = start ∧
        byteSize (before ++ cs) = stop := by
  constructor
  · rintro ⟨hle, -, hstart, hstop⟩
    obtain ⟨before, rest, htext, hbefore⟩ := isValid_iff_exists_append.mp hstart
    obtain ⟨front, after, htext', hfront⟩ := isValid_iff_exists_append.mp hstop
    obtain ⟨cs, rfl, rfl⟩ := eq_append_of_byteSize_le (htext'.symm.trans htext)
      (by rw [hbefore, hfront]; exact hle)
    exact ⟨before, cs, after, htext, hbefore, hfront⟩
  · rintro ⟨before, cs, after, htext, rfl, rfl⟩
    have hstop : text.toList = (before ++ cs) ++ after := by rw [htext, List.append_assoc]
    refine ⟨?_, ?_, isValid_iff_exists_append.mpr ⟨before, _, htext, rfl⟩,
      isValid_iff_exists_append.mpr ⟨_, after, hstop, rfl⟩⟩
    · rw [byteSize_append]
      exact Nat.le_add_right _ _
    · rw [utf8ByteSize_eq_byteSize, hstop, byteSize_append _ after]
      exact Nat.le_add_right _ _

/-! ## Cutting -/

theorem ok_bind {ε α β : Type} (a : α) (f : α → Except ε β) : (Except.ok a >>= f) = f a := rfl

/-- The characters of the text from byte `start` to byte `stop`. A stretch that cannot be cut out is
given back as the fault. -/
def cut (text : String) (start stop : Nat) : Except Stretch (List Char) :=
  if h : (Stretch.mk start stop).LiesIn text then
    .ok (String.extract (text.pos ⟨start⟩ h.isValid_start) (text.pos ⟨stop⟩ h.isValid_stop)).toList
  else .error ⟨start, stop⟩

theorem exists_cut_eq_ok_iff {text : String} {start stop : Nat} :
    (∃ cs, cut text start stop = .ok cs) ↔ (Stretch.mk start stop).LiesIn text := by
  unfold cut
  split
  · next h => exact iff_of_true ⟨_, rfl⟩ h
  · next h => exact iff_of_false (by rintro ⟨_, heq⟩; contradiction) h

theorem cut_byteSize {text : String} {before cs after : List Char}
    (h : text.toList = before ++ (cs ++ after)) :
    cut text (byteSize before) (byteSize (before ++ cs)) = .ok cs := by
  have hlies : (Stretch.mk (byteSize before) (byteSize (before ++ cs))).LiesIn text :=
    Stretch.liesIn_iff.mpr ⟨before, cs, after, h, rfl, rfl⟩
  have hextract : String.extract (text.pos ⟨byteSize before⟩ hlies.isValid_start)
      (text.pos ⟨byteSize (before ++ cs)⟩ hlies.isValid_stop) = String.ofList cs := by
    rw [← String.toByteArray_inj, String.toByteArray_extract, ← extract_toByteArray_ofList before,
      ← h, String.ofList_toList, ← byteSize_append]
    rfl
  rw [cut, dif_pos hlies, hextract, String.toList_ofList]

/-- What is cut out stands between what is in front of the stretch and what is behind it. -/
theorem cut_eq_ok_iff {text : String} {start stop : Nat} {cs : List Char} :
    cut text start stop = .ok cs ↔
      ∃ before after, text.toList = before ++ (cs ++ after) ∧ byteSize before = start ∧
        byteSize (before ++ cs) = stop := by
  constructor
  · intro h
    obtain ⟨before, mid, after, htext, rfl, rfl⟩ :=
      Stretch.liesIn_iff.mp (exists_cut_eq_ok_iff.mp ⟨cs, h⟩)
    obtain rfl : mid = cs := by
      rw [cut_byteSize htext] at h
      exact Except.ok.inj h
    exact ⟨before, after, htext, rfl, rfl⟩
  · rintro ⟨before, after, htext, rfl, rfl⟩
    exact cut_byteSize htext

/-- The text behind a place. -/
theorem cut_to_end {text : String} {before cs : List Char} (h : text.toList = before ++ cs) :
    cut text (byteSize before) text.utf8ByteSize = .ok cs := by
  have hend : text.toList = before ++ (cs ++ []) := by rw [h, List.append_nil]
  rw [utf8ByteSize_eq_byteSize, h]
  exact cut_byteSize hend

end Captions.Text

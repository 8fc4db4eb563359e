import Mathlib.Data.String.Basic

/-!
# Texts are ordered as their bytes

Keys and icon names are listed in the order of their bytes in UTF-8. This is their order by
characters: the greater one of two characters has at least as many bytes, the first byte tells how
many, and of equally many the first one that differs is greater.

Results:
* `utf8EncodeChar_eq`: the bytes of a character are six bits each behind a marked first one.
* `utf8EncodeChar_append_lt`: a greater character has greater bytes, whatever comes behind.
* `bytes_lt_bytes_iff`, `compare_eq_lt_iff`: a text comes before another exactly when its bytes do.
-/

namespace Captions.Text

open String (utf8EncodeChar)

/-! ## Bytes of a character -/

/-- The byte that carries the six lowest bits of `n` behind a first byte. -/
def continuation (n : Nat) : UInt8 := UInt8.ofNat (n % 64 + 128)

/-- The bytes of `n` with `count` of them behind the first one, to which `mark` is added. -/
def markedBytes (mark : Nat) : (count : Nat) → (n : Nat) → List UInt8
  | 0, n => [UInt8.ofNat (n + mark)]
  | count + 1, n => markedBytes mark count (n / 64) ++ [continuation n]

/-- The number of bytes behind the first one of a code point. -/
def countBehind (n : Nat) : Nat :=
  if n ≤ 0x7F then 0 else if n ≤ 0x7FF then 1 else if n ≤ 0xFFFF then 2 else 3

/-- The mark of a first byte with `count` bytes behind it. -/
def firstMark : (count : Nat) → Nat
  | 0 => 0
  | 1 => 0xC0
  | 2 => 0xE0
  | _ => 0xF0

theorem toNat_lt (c : Char) : c.toNat < 0x110000 := by
  have hvalid : c.toNat.isValidChar := c.valid
  unfold Nat.isValidChar at hvalid
  omega

theorem utf8EncodeChar_eq (c : Char) :
    utf8EncodeChar c =
      markedBytes (firstMark (countBehind c.toNat)) (countBehind c.toNat) c.toNat := by
  have hlt := toNat_lt c
  unfold utf8EncodeChar countBehind
  dsimp only
  rw [Char.toNat_val]
  split_ifs with h₁ h₂ h₃
  · simp [markedBytes, firstMark]
  · have hfirst : c.toNat / 64 % 32 = c.toNat / 64 := by omega
    simp [markedBytes, firstMark, continuation, hfirst]
  · have hfirst : c.toNat / 4096 % 16 = c.toNat / 4096 := by omega
    simp [markedBytes, firstMark, continuation, hfirst, Nat.div_div_eq_div_mul]
  · have hfirst : c.toNat / 262144 % 8 = c.toNat / 262144 := by omega
    simp [markedBytes, firstMark, continuation, hfirst, Nat.div_div_eq_div_mul]

/-! ## The first byte that differs -/

theorem cons_ofNat_lt {m n : Nat} (h : m < n) (hn : n < 256) (as bs : List UInt8) :
    UInt8.ofNat m :: as < UInt8.ofNat n :: bs :=
  List.cons_lt_cons_iff.mpr (.inl ((UInt8.ofNat_lt_iff_lt (h.trans hn) hn).mpr h))

/-- With equally many bytes the one with the greater number is greater, as long as its first byte
does not overflow. -/
theorem markedBytes_append_lt {mark count m n : Nat} (h : m < n)
    (hn : n / 64 ^ count + mark < 256) (as bs : List UInt8) :
    markedBytes mark count m ++ as < markedBytes mark count n ++ bs := by
  induction count generalizing m n as bs with
  | zero =>
    rw [Nat.pow_zero, Nat.div_one] at hn
    exact cons_ofNat_lt (Nat.add_lt_add_right h mark) hn as bs
  | succ count ih =>
    rw [markedBytes, markedBytes, List.append_assoc, List.append_assoc]
    rw [Nat.pow_succ', ← Nat.div_div_eq_div_mul] at hn
    rcases Nat.lt_or_eq_of_le (Nat.div_le_div_right (c := 64) h.le) with hlt | heq
    · exact ih hlt hn ([continuation m] ++ as) ([continuation n] ++ bs)
    · -- all but the six lowest bits are the same
      rw [heq]
      have hlow : m % 64 < n % 64 := by omega
      exact List.append_left_lt (cons_ofNat_lt (Nat.add_lt_add_right hlow 128) (by omega) as bs)

theorem exists_markedBytes_eq_cons (mark count n : Nat) :
    ∃ behind, markedBytes mark count n = UInt8.ofNat (n / 64 ^ count + mark) :: behind := by
  induction count generalizing n with
  | zero => exact ⟨[], by rw [Nat.pow_zero, Nat.div_one, markedBytes]⟩
  | succ count ih =>
    obtain ⟨behind, hbehind⟩ := ih (n / 64)
    refine ⟨behind ++ [continuation n], ?_⟩
    rw [markedBytes, hbehind, Nat.div_div_eq_div_mul, ← Nat.pow_succ', List.cons_append]

theorem countBehind_le {m n : Nat} (h : m ≤ n) : countBehind m ≤ countBehind n := by
  unfold countBehind
  split_ifs <;> omega

theorem first_lt {n : Nat} (h : n < 0x110000) :
    n / 64 ^ countBehind n + firstMark (countBehind n) < 256 := by
  unfold countBehind
  split_ifs <;> simp only [firstMark] <;> omega

/-- With fewer bytes the first one is less than the mark of the other first one. -/
theorem first_lt_firstMark {m n : Nat} (h : countBehind m < countBehind n) :
    m / 64 ^ countBehind m + firstMark (countBehind m) < firstMark (countBehind n) := by
  revert h
  unfold countBehind
  split_ifs <;> simp only [firstMark] <;> omega

/-- A greater character has greater bytes, whatever comes behind. -/
theorem utf8EncodeChar_append_lt {c d : Char} (h : c < d) (as bs : List UInt8) :
    utf8EncodeChar c ++ as < utf8EncodeChar d ++ bs := by
  have hlt : c.toNat < d.toNat := UInt32.lt_iff_toNat_lt.mp h
  have hd := first_lt (toNat_lt d)
  rw [utf8EncodeChar_eq, utf8EncodeChar_eq]
  rcases Nat.lt_or_eq_of_le (countBehind_le hlt.le) with hfewer | hsame
  · obtain ⟨cs, hcs⟩ := exists_markedBytes_eq_cons (firstMark (countBehind c.toNat))
      (countBehind c.toNat) c.toNat
    obtain ⟨ds, hds⟩ := exists_markedBytes_eq_cons (firstMark (countBehind d.toNat))
      (countBehind d.toNat) d.toNat
    rw [hcs, hds]
    exact cons_ofNat_lt ((first_lt_firstMark hfewer).trans_le (Nat.le_add_left ..)) hd _ _
  · rw [hsame]
    exact markedBytes_append_lt hlt hd as bs

/-! ## Bytes of a text -/

/-- The bytes of a text in UTF-8. -/
def bytes (text : String) : List UInt8 := text.toByteArray.data.toList

theorem bytes_eq_flatMap (text : String) : bytes text = text.toList.flatMap utf8EncodeChar := by
  conv_lhs => rw [← String.ofList_toList (s := text)]
  rw [bytes, String.toByteArray_ofList, List.utf8Encode, List.data_toByteArray]

theorem flatMap_utf8EncodeChar_lt {cs ds : List Char} (h : cs < ds) :
    cs.flatMap utf8EncodeChar < ds.flatMap utf8EncodeChar := by
  induction h with
  | nil =>
    next d ds =>
    obtain ⟨byte, behind, hbytes⟩ :=
      List.exists_cons_of_ne_nil (String.utf8EncodeChar_ne_nil (c := d))
    rw [List.flatMap_cons, hbytes]
    exact List.nil_lt_cons ..
  | rel hlt => exact utf8EncodeChar_append_lt hlt _ _
  | cons _ ih => exact List.append_left_lt ih

/-- **Texts are ordered as their bytes.** -/
theorem bytes_lt_bytes_iff {a b : String} : bytes a < bytes b ↔ a < b := by
  have hmono : ∀ {a b : String}, a < b → bytes a < bytes b := by
    intro a b h
    rw [bytes_eq_flatMap, bytes_eq_flatMap]
    exact flatMap_utf8EncodeChar_lt (String.lt_iff_toList_lt.mp h)
  refine ⟨fun h => ?_, hmono⟩
  rcases lt_trichotomy a b with hlt | rfl | hgt
  · exact hlt
  · exact absurd h (List.lt_irrefl _)
  · exact absurd h (List.lt_asymm (hmono hgt))

theorem compare_eq_lt_iff {a b : String} : compare a b = .lt ↔ bytes a < bytes b := by
  rw [bytes_lt_bytes_iff, compare_lt_iff_lt]

end Captions.Text

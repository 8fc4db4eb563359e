/-!
# Sizes in bytes

The number of bytes that a text takes in UTF-8. Places in a text are counted in bytes.

Results:
* `byteSize_append`: the sizes of the parts of a text add up.
* `utf8ByteSize_ofList`: the size of a string is that of its characters.
* `eq_append_of_byteSize_le`: of two starts of one text, the longer one in bytes goes on from the
  other.
-/

namespace Captions.Text

/-- The number of bytes of a text in UTF-8. -/
def byteSize : List Char → Nat
  | [] => 0
  | c :: cs => c.utf8Size + byteSize cs

@[simp]
theorem byteSize_nil : byteSize [] = 0 := rfl

@[simp]
theorem byteSize_cons (c : Char) (cs : List Char) :
    byteSize (c :: cs) = c.utf8Size + byteSize cs := rfl

@[simp]
theorem byteSize_append (as bs : List Char) : byteSize (as ++ bs) = byteSize as + byteSize bs := by
  induction as with
  | nil => simp
  | cons c as ih => simp [ih, Nat.add_assoc]

@[simp]
theorem utf8ByteSize_ofList (cs : List Char) : (String.ofList cs).utf8ByteSize = byteSize cs := by
  induction cs with
  | nil => simp
  | cons c cs ih => simp [String.ofList_cons, ih]

theorem byteSize_eq_zero_iff {cs : List Char} : byteSize cs = 0 ↔ cs = [] := by
  cases cs with
  | nil => simp
  | cons c cs =>
    have := c.utf8Size_pos
    simp only [byteSize_cons, reduceCtorEq, iff_false]
    omega

theorem eq_append_of_byteSize_le {as bs cs ds : List Char} (h : as ++ bs = cs ++ ds)
    (hle : byteSize cs ≤ byteSize as) : ∃ mid, as = cs ++ mid ∧ ds = mid ++ bs := by
  rcases List.append_eq_append_iff.mp h with ⟨mid, rfl, rfl⟩ | ⟨mid, rfl, rfl⟩
  · have hmid : mid = [] := byteSize_eq_zero_iff.mp (by simp at hle; omega)
    exact ⟨[], by simp [hmid]⟩
  · exact ⟨mid, rfl, rfl⟩

/-- Two starts of one text that are of one size are the same. -/
theorem append_inj_of_byteSize {as bs cs ds : List Char} (h : as ++ bs = cs ++ ds)
    (heq : byteSize as = byteSize cs) : as = cs ∧ bs = ds := by
  obtain ⟨mid, rfl, rfl⟩ := eq_append_of_byteSize_le h (Nat.le_of_eq heq.symm)
  have hmid : mid = [] := byteSize_eq_zero_iff.mp (by simp at heq; omega)
  simp [hmid]

end Captions.Text

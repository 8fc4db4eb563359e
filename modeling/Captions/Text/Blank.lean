/-!
# Blank characters

The characters that Unicode calls white space, and the removal of blanks from both ends of a text.

Results:
* `trim_eq_nil_iff`: nothing is left exactly when every character is blank.
-/

namespace Captions.Text

/-- The code points with the Unicode property White_Space, as closed ranges. -/
def blankRanges : List (Nat × Nat) :=
  [(0x09, 0x0D), (0x20, 0x20), (0x85, 0x85), (0xA0, 0xA0), (0x1680, 0x1680), (0x2000, 0x200A),
    (0x2028, 0x2029), (0x202F, 0x202F), (0x205F, 0x205F), (0x3000, 0x3000)]

/-- Whether `c` is white space. -/
def isBlank (c : Char) : Bool :=
  blankRanges.any fun (first, last) => first ≤ c.toNat && c.toNat ≤ last

/-- `cs` without its leading and trailing blanks. -/
def trim (cs : List Char) : List Char :=
  ((cs.dropWhile isBlank).reverse.dropWhile isBlank).reverse

theorem trim_eq_nil_iff {cs : List Char} : trim cs = [] ↔ ∀ c ∈ cs, isBlank c = true := by
  have all_of : ∀ l : List Char, l.dropWhile isBlank = [] ↔ ∀ c ∈ l, isBlank c = true := by
    intro l
    induction l with
    | nil => simp
    | cons c l ih => by_cases hc : isBlank c = true <;> simp [hc, ih]
  rw [trim, List.reverse_eq_nil_iff, all_of]
  constructor
  · intro h
    apply (all_of cs).mp
    cases hd : cs.dropWhile isBlank with
    | nil => rfl
    | cons c l =>
      have hc : isBlank c = false := by
        have := List.head?_dropWhile_not isBlank cs
        simpa [hd] using this
      have := h c (by simp [hd])
      simp [hc] at this
  · intro h c hc
    rw [List.mem_reverse] at hc
    exact h c ((List.dropWhile_sublist isBlank).subset hc)

end Captions.Text

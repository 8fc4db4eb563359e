/-!
# Characters of code points

Results:
* `scalar?_eq_none_iff`, `toNat_of_scalar?`: which code points have a character, and which one.
-/

namespace Captions.Text

/-- The character of a code point; surrogates and numbers above `10FFFF` have none. -/
def scalar? (codePoint : Nat) : Option Char :=
  if h : codePoint.isValidChar then some (Char.ofNatAux codePoint h) else none

theorem scalar?_eq_none_iff {codePoint : Nat} :
    scalar? codePoint = none ↔ ¬ codePoint.isValidChar := by
  by_cases h : codePoint.isValidChar
  · rw [scalar?, dif_pos h]
    exact iff_of_false (Option.some_ne_none _) (not_not_intro h)
  · rw [scalar?, dif_neg h]
    exact iff_of_true rfl h

theorem toNat_of_scalar? {codePoint : Nat} {c : Char} (h : scalar? codePoint = some c) :
    c.toNat = codePoint := by
  by_cases hvalid : codePoint.isValidChar
  · rw [scalar?, dif_pos hvalid] at h
    rw [← Option.some.inj h]
    rfl
  · rw [scalar?, dif_neg hvalid] at h
    contradiction

end Captions.Text

/-
RpiBld/Lib/Numeral.lean

Numerals: the canonical notation of a natural number in a base, the most
significant digit first.  `Numeral b n` is a list of digits with the proof
that it is one; there is one for every number (`numeral`).
-/
import Mathlib.Data.Nat.Digits.Lemmas

namespace Traced

/-- The notation of `n` in base `b`: digits below `b` with the value `n`, and no leading zero but
that of zero itself. -/
structure Numeral (b n : Nat) where
  digits : List Nat
  lt_base : ∀ d ∈ digits, d < b
  value : Nat.ofDigits b digits.reverse = n
  nonempty : digits ≠ []
  canonical : digits.head? = some 0 → digits = [0]

/-- The numeral of `n`. -/
def numeral (b : Nat) (hb : 1 < b) (n : Nat) : Numeral b n :=
  if hn : n = 0 then
    { digits := [0]
      lt_base := by simp; omega
      value := by simp [hn]
      nonempty := by simp
      canonical := fun _ => rfl }
  else
    { digits := (Nat.digits b n).reverse
      lt_base := fun d hd => Nat.digits_lt_base hb (List.mem_reverse.mp hd)
      value := by rw [List.reverse_reverse, Nat.ofDigits_digits]
      nonempty := by
        rw [Ne, List.reverse_eq_nil_iff]
        exact Nat.digits_ne_nil_iff_ne_zero.mpr hn
      canonical := by
        intro hhead
        rw [List.head?_reverse] at hhead
        have hlast := Nat.getLast_digit_ne_zero b hn
        rw [List.getLast?_eq_some_getLast (Nat.digits_ne_nil_iff_ne_zero.mpr hn)] at hhead
        exact absurd (Option.some.inj hhead) hlast }

section Numeral

variable {b : Nat} {hb : 1 < b} {n : Nat}

theorem numeral_zero : (numeral b hb 0).digits = [0] := rfl

theorem numeral_of_ne_zero (hn : n ≠ 0) :
    (numeral b hb n).digits = (Nat.digits b n).reverse := by
  rw [numeral, dif_neg hn]

/-- Numerals are as short as they can be. -/
theorem length_numeral_le (hb : 1 < b) {k : Nat} (hk : 0 < k) (hn : n < b ^ k) :
    (numeral b hb n).digits.length ≤ k := by
  by_cases hzero : n = 0
  · subst hzero
    exact hk
  · rw [numeral_of_ne_zero hzero, List.length_reverse]
    exact (Nat.digits_length_le_iff hb n).mpr hn

end Numeral

end Traced

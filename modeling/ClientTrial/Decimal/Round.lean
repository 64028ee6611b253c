/-!
# Rounding of quotients

Every rounding of an exact value, to whole microseconds, to fixed places, to
significant digits, is the rounding of a quotient of natural numbers.  A half
goes to the even neighbour.

## Main definitions

* `roundDiv num den` — the natural number nearest to `num / den`.

## Main results

* `roundDiv_within_half` — it is off by at most one half.
-/

namespace ClientTrial
namespace Decimal

/-- The natural number nearest to `num / den`, the even one of two. -/
def roundDiv (num den : Nat) : Nat :=
  let q := num / den
  let r := num % den
  if 2 * r < den then q
  else if den < 2 * r then q + 1
  else if q % 2 = 0 then q else q + 1

/-- The rounded quotient is off by at most one half. -/
theorem roundDiv_within_half {num den : Nat} (h : 0 < den) :
    2 * num ≤ (2 * roundDiv num den + 1) * den ∧ 2 * roundDiv num den * den ≤ 2 * num + den := by
  have hdiv : num = den * (num / den) + num % den := (Nat.div_add_mod num den).symm
  have hlt : num % den < den := Nat.mod_lt _ h
  generalize hq : num / den = q at *
  generalize hr : num % den = r at *
  have hcomm : den * q = q * den := Nat.mul_comm den q
  have hup : (q + 1) * den = q * den + den := by rw [Nat.add_mul, Nat.one_mul]
  unfold roundDiv
  simp only [hq, hr]
  have expand : ∀ k : Nat, (2 * k + 1) * den = 2 * (k * den) + den := by
    intro k; rw [Nat.add_mul, Nat.one_mul, Nat.mul_assoc]
  have expand' : ∀ k : Nat, 2 * k * den = 2 * (k * den) := fun k => Nat.mul_assoc 2 k den
  split
  · rw [expand, expand']; omega
  · split
    · rw [expand, expand', hup]; omega
    · split
      · rw [expand, expand']; omega
      · rw [expand, expand', hup]; omega

end Decimal
end ClientTrial

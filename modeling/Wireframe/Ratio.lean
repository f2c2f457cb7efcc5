/-!
# Ratios

Quotients and differences with a significand of 53 binary digits. The exact result is rounded to
the nearest such number, and a tie goes to the even significand. The exponent is not limited, which
makes no difference to numbers as large as the columns of a drawing.

`calculate_alignment` and `span_alignment` of `alignment` divide and subtract in such numbers.
-/

namespace Wireframe.Ratio

/-- The quotient of two natural numbers rounded to the nearest one, a tie to the even one. -/
def nearest (n d : Nat) : Nat :=
  let q := n / d
  let twice := 2 * (n % d)
  if twice < d ∨ (twice = d ∧ q % 2 = 0) then q else q + 1

/-- `n` times a power of two, over `d` times a power of two: the two scaled by `2 ^ -e`. -/
def scale (n d : Nat) (e : Int) : Nat × Nat :=
  if 0 ≤ e then (n, d * Nat.pow 2 e.toNat) else (n * Nat.pow 2 (-e).toNat, d)

/-- The exponent `e` with `2 ^ e ≤ n / d < 2 ^ (e + 1)`. -/
def exponent (n d : Nat) : Int :=
  let e : Int := n.log2 - d.log2
  let (a, b) := scale n d e
  if a < b then e - 1 else e

/-- A positive quotient rounded to 53 binary digits. -/
def roundPositive (n d : Nat) : Rat :=
  let e := exponent n d - 52
  let (a, b) := scale n d e
  -- The scaled quotient lies between 2 ^ 52 and 2 ^ 53.
  let m := nearest a b
  if 0 ≤ e then mkRat (m * Nat.pow 2 e.toNat : Nat) 1 else mkRat m (Nat.pow 2 (-e).toNat)

/-- A number rounded to 53 binary digits. -/
def round (q : Rat) : Rat :=
  if q.num = 0 then 0
  else if q.num < 0 then -roundPositive q.num.natAbs q.den
  else roundPositive q.num.natAbs q.den

/-- A rounded quotient. -/
def quotient (n d : Int) : Rat := round (n / d)

/-- A rounded difference. -/
def difference (a b : Rat) : Rat := round (a - b)

/-- The distance of two numbers, rounded. -/
def distance (a b : Rat) : Rat :=
  let d := difference a b
  if d < 0 then -d else d

/-- Rounding treats both signs alike. -/
theorem round_neg (q : Rat) : round (-q) = -round q := by
  unfold round
  rw [Rat.neg_num, Rat.neg_den, Int.natAbs_neg]
  -- Zero stays zero, and of a number and its opposite one is negative.
  by_cases h0 : q.num = 0
  · have h0' : -q.num = 0 := by omega
    rw [if_pos h0', if_pos h0]
    rfl
  · have h0' : ¬ -q.num = 0 := by omega
    rw [if_neg h0', if_neg h0]
    by_cases h1 : q.num < 0
    · have h1' : ¬ -q.num < 0 := by omega
      rw [if_neg h1', if_pos h1, Rat.neg_neg]
    · have h1' : -q.num < 0 := by omega
      rw [if_pos h1', if_neg h1]

/-- The distance does not depend on the order. -/
theorem distance_comm (a b : Rat) : distance a b = distance b a := by
  have h : difference b a = -difference a b := by
    unfold difference
    rw [← round_neg]
    congr 1
    grind
  unfold distance
  simp only [h]
  grind

end Wireframe.Ratio

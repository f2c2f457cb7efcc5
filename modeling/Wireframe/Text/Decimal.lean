import Wireframe.Text.Line

/-!
# Decimal numbers

Integers in decimal digits, and padding to a width.
-/

namespace Wireframe.Text

/-- The decimal digits of an integer, behind a minus sign when it is negative. -/
def digits : Int → List Char
  | .ofNat n => Nat.toDigits 10 n
  | .negSucc n => '-' :: Nat.toDigits 10 (n + 1)

/-- An integer in decimal. -/
def decimal (n : Int) : String := String.ofList (digits n)

/-- Only digits and minus signs make up a number. -/
theorem eq_or_isDigit_of_mem_digits {n : Int} {c : Char} (h : c ∈ digits n) :
    c = '-' ∨ c.isDigit = true := by
  cases n with
  | ofNat n => exact .inr (Nat.isDigit_of_mem_toDigits (by decide) (by decide) h)
  | negSucc n =>
    rcases List.mem_cons.1 h with rfl | h
    · exact .inl rfl
    · exact .inr (Nat.isDigit_of_mem_toDigits (by decide) (by decide) h)

/-- Different numbers have different digits. -/
theorem digits_inj {m n : Int} : digits m = digits n ↔ m = n := by
  have hinj : ∀ {a b : Nat}, Nat.toDigits 10 a = Nat.toDigits 10 b → a = b := by
    intro a b h
    calc a = Nat.ofDigitChars 10 (Nat.toDigits 10 a) 0 := Nat.ofDigitChars_ten_toDigits.symm
      _ = Nat.ofDigitChars 10 (Nat.toDigits 10 b) 0 := by rw [h]
      _ = b := Nat.ofDigitChars_ten_toDigits
  -- A minus sign is no digit.
  have hsign : ∀ {a b : Nat}, Nat.toDigits 10 a ≠ '-' :: Nat.toDigits 10 b := by
    intro a b h
    have hdigit := Nat.isDigit_of_mem_toDigits (b := 10) (n := a) (c := '-') (by decide) (by decide)
      (h ▸ List.mem_cons_self)
    exact absurd hdigit (by decide)
  refine ⟨fun h => ?_, fun h => by rw [h]⟩
  cases m with
  | ofNat a =>
    cases n with
    | ofNat b => exact congrArg Int.ofNat (hinj h)
    | negSucc b => exact absurd h hsign
  | negSucc a =>
    cases n with
    | ofNat b => exact absurd h.symm hsign
    | negSucc b => exact congrArg Int.negSucc (Nat.succ.inj (hinj (List.cons.inj h).2))

/-- A number has at most `k` digits exactly when it is less than the `k`-th power of ten. -/
theorem length_digits_le_iff {n k : Nat} (hk : 0 < k) :
    (digits n).length ≤ k ↔ n < Nat.pow 10 k :=
  Nat.length_toDigits_le_iff (by decide) hk

/-- A greater number has no fewer digits. -/
theorem length_digits_mono {m n : Nat} (h : m ≤ n) : (digits m).length ≤ (digits n).length := by
  have hpos : 0 < (digits n).length := Nat.length_toDigits_pos
  apply (length_digits_le_iff hpos).2
  calc m ≤ n := h
    _ < Nat.pow 10 (digits n).length := (length_digits_le_iff hpos).1 (Nat.le_refl _)

/-- Blanks in front of a text until it has a given length. A longer text stays as it is. -/
def padLeft (width : Nat) (cs : List Char) : List Char :=
  List.replicate (width - cs.length) ' ' ++ cs

/-- Blanks behind a text until it has a given length. A longer text stays as it is. -/
def padRight (width : Nat) (cs : List Char) : List Char :=
  cs ++ List.replicate (width - cs.length) ' '

/-- Padding reaches the width and never shortens. -/
theorem length_padLeft (width : Nat) (cs : List Char) :
    (padLeft width cs).length = max width cs.length := by
  simp [padLeft]
  omega

/-- Padding reaches the width and never shortens. -/
theorem length_padRight (width : Nat) (cs : List Char) :
    (padRight width cs).length = max width cs.length := by
  simp [padRight]
  omega

end Wireframe.Text

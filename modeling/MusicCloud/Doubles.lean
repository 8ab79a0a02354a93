import Mathlib.Algebra.Order.Field.Power
import MusicCloud.Decimals

/-!
Binary floating-point numbers of double precision, as the rationals they stand for,
and their first fifteen decimal digits.
-/
namespace Doubles

def roundEven (x : ℚ) : ℤ :=
  if Int.fract x < 1 / 2 then ⌊x⌋
  else if 1 / 2 < Int.fract x then ⌊x⌋ + 1
  else if ⌊x⌋ % 2 = 0 then ⌊x⌋ else ⌊x⌋ + 1

/-- The exponent of the last of 53 binary digits; subnormal numbers share one. -/
def lastPlace (x : ℚ) : ℤ := max (Int.log 2 x - 52) (-1074)

def rounded (x : ℚ) : ℚ := roundEven (x / 2 ^ lastPlace x) * 2 ^ lastPlace x

def nearest (x : ℚ) : Option ℚ := if rounded x < 2 ^ 1024 then some (rounded x) else none

def strip : ℕ → ℕ → ℤ → ℕ × ℤ
  | 0, c, e => (c, e)
  | n + 1, c, e => if c % 10 = 0 then strip n (c / 10) (e + 1) else (c, e)

/-- The first fifteen digits of a positive number, rounded, as `c * 10 ^ e`. -/
def fifteen (y : ℚ) : ℕ × ℤ :=
  let e := Int.log 10 y - 14
  strip 15 ⌊y / 10 ^ e + 1 / 2⌋.toNat e

/-- A decimal of at most fifteen digits that its double still tells. -/
def Carries (c : ℕ) (e : ℤ) (y : ℚ) : Prop := nearest (c * 10 ^ e) = some y ∧ fifteen y = (c, e)

section Digits
variable {c : ℕ} {e : ℤ}

theorem strip_value (n c : ℕ) (e : ℤ) :
    ((strip n c e).1 * 10 ^ (strip n c e).2 : ℚ) = c * 10 ^ e := by
  induction n generalizing c e with
  | zero => rfl
  | succ n ih =>
    unfold strip
    by_cases zero : c % 10 = 0
    · rw [if_pos zero, ih]
      have whole : ((c / 10 : ℕ) * 10 : ℚ) = c := by
        exact_mod_cast Nat.div_mul_cancel (Nat.dvd_of_mod_eq_zero zero)
      rw [zpow_add₀ (by norm_num), zpow_one, ← whole]
      ring
    · rw [if_neg zero]

theorem strip_last (n : ℕ) (positive : 0 < c) (bound : c < 10 ^ (n + 1)) :
    (strip n c e).1 % 10 ≠ 0 := by
  induction n generalizing c e with
  | zero =>
    unfold strip
    omega
  | succ n ih =>
    unfold strip
    by_cases zero : c % 10 = 0
    · rw [if_pos zero]
      apply ih
      · omega
      · rw [pow_succ] at bound
        omega
    · rw [if_neg zero]
      exact zero

theorem writing_unique {c d : ℕ} {e k : ℤ} (lastc : c % 10 ≠ 0) (lastd : d % 10 ≠ 0)
    (same : (c * 10 ^ e : ℚ) = d * 10 ^ k) : (c, e) = (d, k) := by
  wlog order : e ≤ k generalizing c d e k
  · exact (this lastd lastc same.symm (by omega)).symm
  obtain ⟨n, rfl⟩ := Int.le.dest order
  have shifted : (c : ℚ) = d * 10 ^ n := by
    rw [zpow_add₀ (by norm_num), zpow_natCast, mul_left_comm, mul_comm] at same
    exact mul_left_cancel₀ (zpow_ne_zero e (by norm_num : (10 : ℚ) ≠ 0)) same
  have naturals : c = d * 10 ^ n := by exact_mod_cast shifted
  cases n with
  | zero =>
    rw [naturals]
    simp
  | succ n =>
    rw [naturals, pow_succ, ← mul_assoc, Nat.mul_mod_left] at lastc
    exact absurd rfl lastc

theorem scaled_bounds {y : ℚ} (positive : 0 < y) :
    10 ^ 14 ≤ y / 10 ^ (Int.log 10 y - 14) ∧ y / 10 ^ (Int.log 10 y - 14) < 10 ^ 15 := by
  have unit : (0 : ℚ) < 10 ^ (Int.log 10 y - 14) := by positivity
  have lower : ((10 : ℕ) : ℚ) ^ Int.log 10 y ≤ y := Int.zpow_log_le_self (by norm_num) positive
  have upper : y < ((10 : ℕ) : ℚ) ^ (Int.log 10 y + 1) := Int.lt_zpow_succ_log_self (by norm_num) y
  push_cast at lower upper
  constructor
  · rw [le_div_iff₀ unit, ← zpow_natCast, ← zpow_add₀ (by norm_num)]
    refine le_trans (le_of_eq ?_) lower
    congr 1
    push_cast
    ring
  · rw [div_lt_iff₀ unit, ← zpow_natCast, ← zpow_add₀ (by norm_num)]
    refine lt_of_lt_of_eq upper ?_
    congr 1
    push_cast
    ring

end Digits

section Rounding
variable {x y : ℚ}

theorem roundEven_error (x : ℚ) : |roundEven x - x| ≤ 1 / 2 := by
  have whole := Int.floor_add_fract x
  have lower := Int.fract_nonneg x
  have upper := Int.fract_lt_one x
  have split : roundEven x = ⌊x⌋ ∧ Int.fract x ≤ 1 / 2 ∨
      roundEven x = ⌊x⌋ + 1 ∧ 1 / 2 ≤ Int.fract x := by
    unfold roundEven
    by_cases below : Int.fract x < 1 / 2
    · exact Or.inl ⟨if_pos below, le_of_lt below⟩
    · rw [if_neg below]
      have half := not_lt.mp below
      by_cases above : 1 / 2 < Int.fract x
      · exact Or.inr ⟨if_pos above, half⟩
      · rw [if_neg above]
        by_cases even : ⌊x⌋ % 2 = 0
        · exact Or.inl ⟨if_pos even, not_lt.mp above⟩
        · exact Or.inr ⟨if_neg even, half⟩
  rw [abs_le]
  rcases split with ⟨down, near⟩ | ⟨up, near⟩
  · rw [down]
    constructor <;> linarith
  · rw [up]
    push_cast
    constructor <;> linarith

theorem nearest_eq_some (found : nearest x = some y) : y = rounded x := by
  unfold nearest at found
  split at found
  · exact (Option.some.inj found).symm
  · cases found

theorem rounded_error (normal : 2 ^ (-1022 : ℤ) ≤ x) : |rounded x - x| ≤ x * (1 / 2 ^ 53) := by
  have positive : 0 < x := lt_of_lt_of_le (by positivity) normal
  have large : -1022 ≤ Int.log 2 x := by
    rw [← Int.zpow_le_iff_le_log (by norm_num) positive]
    exact_mod_cast normal
  have place : lastPlace x = Int.log 2 x - 52 := by
    unfold lastPlace
    omega
  have unit : (0 : ℚ) < 2 ^ (Int.log 2 x - 52) := by positivity
  have error := roundEven_error (x / 2 ^ (Int.log 2 x - 52))
  have lead : ((2 : ℕ) : ℚ) ^ Int.log 2 x ≤ x := Int.zpow_log_le_self (by norm_num) positive
  push_cast at lead
  have half : (1 / 2 : ℚ) * 2 ^ (Int.log 2 x - 52) = 2 ^ Int.log 2 x * (1 / 2 ^ 53) := by
    rw [zpow_sub₀ (by norm_num)]
    norm_num
    ring
  calc |rounded x - x|
      = |(roundEven (x / 2 ^ (Int.log 2 x - 52)) - x / 2 ^ (Int.log 2 x - 52)) *
          2 ^ (Int.log 2 x - 52)| := by
        rw [sub_mul, div_mul_cancel₀ _ (ne_of_gt unit), rounded, place]
    _ = |roundEven (x / 2 ^ (Int.log 2 x - 52)) - x / 2 ^ (Int.log 2 x - 52)| *
          2 ^ (Int.log 2 x - 52) := by
        rw [abs_mul, abs_of_pos unit]
    _ ≤ 1 / 2 * 2 ^ (Int.log 2 x - 52) := mul_le_mul_of_nonneg_right error (le_of_lt unit)
    _ = 2 ^ Int.log 2 x * (1 / 2 ^ 53) := half
    _ ≤ x * (1 / 2 ^ 53) := mul_le_mul_of_nonneg_right lead (by positivity)

/-- Fifteen digits survive a double: the rounding error is less than a fifth of the
    unit of the last of them. -/
theorem carries_normal {c : ℕ} {e : ℤ} (short : c < 10 ^ 15) (last : c % 10 ≠ 0)
    (normal : 2 ^ (-1022 : ℤ) ≤ (c * 10 ^ e : ℚ)) (found : nearest (c * 10 ^ e) = some y) :
    Carries c e y := by
  refine ⟨found, ?_⟩
  have error := rounded_error normal
  rw [← nearest_eq_some found] at error
  have positive : 0 < (c * 10 ^ e : ℚ) := lt_of_lt_of_le (by positivity) normal
  have large : 0 < y := by
    have below := (abs_le.mp error).1
    nlinarith
  obtain ⟨lower, upper⟩ := scaled_bounds large
  unfold fifteen
  dsimp only
  generalize Int.log 10 y - 14 = k at lower upper ⊢
  have unit : (0 : ℚ) < 10 ^ k := by positivity
  -- in units of the last digit
  have near : |y / 10 ^ k - c * 10 ^ e / 10 ^ k| ≤ c * 10 ^ e / 10 ^ k * (1 / 2 ^ 53) := by
    rw [← sub_div, abs_div, abs_of_pos unit, div_mul_eq_mul_div]
    exact div_le_div_of_nonneg_right error (le_of_lt unit)
  generalize y / 10 ^ k = z at lower upper near
  obtain ⟨below, above⟩ := abs_le.mp near
  have scaled : (c * 10 ^ e / 10 ^ k : ℚ) = c * 10 ^ (e - k) := by
    rw [zpow_sub₀ (by norm_num)]
    ring
  rw [scaled] at below above
  have whole : k ≤ e := by
    by_contra small
    have tenth : (10 : ℚ) ^ (e - k) ≤ 1 / 10 := by
      have power : (10 : ℚ) ^ (e - k) ≤ 10 ^ (-1 : ℤ) := zpow_le_zpow_right₀ (by norm_num) (by omega)
      norm_num at power ⊢
      exact power
    have most : (c : ℚ) ≤ 10 ^ 15 - 1 := by
      have digits : c + 1 ≤ 10 ^ 15 := by omega
      have cast : (c : ℚ) + 1 ≤ 10 ^ 15 := by exact_mod_cast digits
      linarith
    have product : (c * 10 ^ (e - k) : ℚ) ≤ (10 ^ 15 - 1) * (1 / 10) :=
      mul_le_mul most tenth (by positivity) (by norm_num)
    norm_num at product above lower
    linarith
  obtain ⟨n, hn⟩ := Int.le.dest whole
  have natural : (c * 10 ^ (e - k) : ℚ) = ((c * 10 ^ n : ℕ) : ℚ) := by
    have power : e - k = n := by omega
    rw [power]
    push_cast
    rw [zpow_natCast]
  rw [natural] at below above
  have rounded : ⌊z + 1 / 2⌋ = ((c * 10 ^ n : ℕ) : ℤ) := by
    rw [Int.floor_eq_iff]
    norm_num at below above lower upper ⊢
    constructor <;> linarith
  rw [rounded, Int.toNat_natCast]
  have bound : c * 10 ^ n < 10 ^ 16 := by
    have cast : ((c * 10 ^ n : ℕ) : ℚ) < ((10 ^ 16 : ℕ) : ℚ) := by
      norm_num at below above upper ⊢
      linarith
    exact_mod_cast cast
  have nonzero : 0 < c * 10 ^ n := by
    have some_digit : 0 < c := by omega
    positivity
  have stripped := strip_last (c := c * 10 ^ n) (e := k) 15 nonzero bound
  have value := strip_value 15 (c * 10 ^ n) k
  have same : ((c * 10 ^ n : ℕ) * 10 ^ k : ℚ) = c * 10 ^ e := by
    rw [← hn, zpow_add₀ (by norm_num), zpow_natCast]
    push_cast
    ring
  exact writing_unique stripped last (value.trans same)

theorem carries_fraction {c : ℕ} {e : ℤ} (short : c < 10 ^ 15) (last : c % 10 ≠ 0)
    (normal : 2 ^ (-1022 : ℤ) ≤ (c * 10 ^ e : ℚ)) (fraction : e < 0) :
    ∃ y, Carries c e y ∧ y.den ≠ 1 := by
  have tenth : (10 : ℚ) ^ e ≤ 1 / 10 := by
    have power : (10 : ℚ) ^ e ≤ 10 ^ (-1 : ℤ) := zpow_le_zpow_right₀ (by norm_num) (by omega)
    norm_num at power ⊢
    exact power
  have digits : (c : ℚ) ≤ 10 ^ 15 := by exact_mod_cast le_of_lt short
  have bound : (c * 10 ^ e : ℚ) ≤ 10 ^ 15 * (1 / 10) :=
    mul_le_mul digits tenth (by positivity) (by norm_num)
  obtain ⟨below, above⟩ := abs_le.mp (rounded_error normal)
  have finite : rounded (c * 10 ^ e) < 10 ^ 15 := by
    norm_num at bound above ⊢
    linarith
  have found : nearest (c * 10 ^ e) = some (rounded (c * 10 ^ e)) := by
    unfold nearest
    have small : (10 ^ 15 : ℚ) < 2 ^ 64 := by norm_num
    have huge : (2 ^ 64 : ℚ) ≤ 2 ^ 1024 := pow_le_pow_right₀ (by norm_num) (by omega)
    rw [if_pos (lt_of_lt_of_le (lt_trans finite small) huge)]
  have carries := carries_normal short last normal found
  refine ⟨rounded (c * 10 ^ e), carries, ?_⟩
  intro integer
  have positive : 0 < rounded (c * 10 ^ e) := by
    have nonzero : 0 < (c * 10 ^ e : ℚ) := lt_of_lt_of_le (by positivity) normal
    norm_num at below
    linarith
  generalize rounded (c * 10 ^ e) = y at carries integer positive finite
  -- the digits of an integer below `10 ^ 15` are all before the point
  have order : Int.log 10 y < 15 := by
    rw [← Int.lt_zpow_iff_log_lt (by norm_num) positive]
    exact_mod_cast finite
  obtain ⟨n, hn⟩ : ∃ n : ℕ, Int.log 10 y - 14 = -n := ⟨(14 - Int.log 10 y).toNat, by omega⟩
  have whole : y = (y.num : ℚ) := by
    conv_lhs => rw [← Rat.num_div_den y, integer]
    simp
  have exact : (c * 10 ^ e : ℚ) = y := by
    have value := strip_value 15 ⌊y / 10 ^ (Int.log 10 y - 14) + 1 / 2⌋.toNat (Int.log 10 y - 14)
    have told : strip 15 ⌊y / 10 ^ (Int.log 10 y - 14) + 1 / 2⌋.toNat (Int.log 10 y - 14) = (c, e) :=
      carries.2
    rw [told] at value
    have scaled : y / 10 ^ (Int.log 10 y - 14) + 1 / 2 = ((y.num * 10 ^ n : ℤ) : ℚ) + 1 / 2 := by
      rw [hn, zpow_neg, zpow_natCast, div_inv_eq_mul]
      conv_lhs => rw [whole]
      push_cast
      rfl
    have floored : ⌊y / 10 ^ (Int.log 10 y - 14) + 1 / 2⌋ = y.num * 10 ^ n := by
      rw [scaled, Int.floor_intCast_add]
      norm_num
    have natural : ((y.num * 10 ^ n).toNat : ℚ) = y.num * 10 ^ n := by
      have nonneg : 0 ≤ y.num * 10 ^ n := by
        have numerator := Rat.num_pos.mpr positive
        positivity
      have cast : ((y.num * 10 ^ n).toNat : ℤ) = y.num * 10 ^ n := Int.toNat_of_nonneg nonneg
      exact_mod_cast cast
    rw [floored, natural, hn, zpow_neg, zpow_natCast, mul_assoc,
      mul_inv_cancel₀ (by positivity), mul_one] at value
    rw [whole]
    exact value
  obtain ⟨m, hm⟩ : ∃ m : ℕ, e = -(m + 1) := ⟨(-e - 1).toNat, by omega⟩
  have naturals : (c : ℚ) = y.num * 10 ^ (m + 1) := by
    rw [whole, hm, zpow_neg] at exact
    have unit : (10 : ℚ) ^ ((m : ℤ) + 1) ≠ 0 := by positivity
    field_simp at exact
    rw [mul_comm] at exact
    exact_mod_cast exact
  have integers : (c : ℤ) = y.num * 10 ^ (m + 1) := by exact_mod_cast naturals
  rw [pow_succ, ← mul_assoc] at integers
  omega

end Rounding

end Doubles

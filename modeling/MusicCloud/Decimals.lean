import Mathlib.Data.Int.Log
import Mathlib.Data.List.DropRight
import Mathlib.Data.Rat.Floor
import Mathlib.Tactic.FieldSimp
import Mathlib.Tactic.Linarith
import Mathlib.Tactic.NormNum
import Mathlib.Tactic.Positivity
import Mathlib.Tactic.Ring

/-!
Decimal literals: how they are read, what they are worth, and the text of a number
of few digits. Numbers are exact rationals.
-/
namespace Decimals

inductive Sign where
  | none
  | plus
  | minus
  deriving DecidableEq, Repr

namespace Sign

def chars : Sign → List Char
  | none => []
  | plus => ['+']
  | minus => ['-']

def read : List Char → Sign × List Char
  | '+' :: s => (plus, s)
  | '-' :: s => (minus, s)
  | s => (none, s)

end Sign

structure Exponent where
  sign : Sign
  digits : List Char
  deriving DecidableEq, Repr

structure Literal where
  sign : Sign
  whole : List Char
  fraction : Option (List Char)
  exponent : Option Exponent
  deriving DecidableEq, Repr

def isBlank (c : Char) : Bool := c.toNat == 32 || (9 ≤ c.toNat && c.toNat ≤ 13)

def trim (s : List Char) : List Char := (s.dropWhile isBlank).rdropWhile isBlank

section Reading

def readFraction : List Char → Option (List Char) × List Char
  | '.' :: s => (some (s.takeWhile Char.isDigit), s.dropWhile Char.isDigit)
  | s => (none, s)

def readExponent : List Char → Option (Option Exponent)
  | [] => some none
  | c :: s =>
    let digits := (Sign.read s).2
    if (c = 'e' ∨ c = 'E') ∧ digits ≠ [] ∧ digits.all Char.isDigit then
      some (some { sign := (Sign.read s).1, digits := digits })
    else none

/-- A sign, digits, a point and digits, an exponent; one digit at least stands
    before the exponent. -/
def read (s : List Char) : Option Literal :=
  let (sign, s) := Sign.read (trim s)
  let whole := s.takeWhile Char.isDigit
  let (fraction, s) := readFraction (s.dropWhile Char.isDigit)
  match readExponent s with
  | some exponent =>
    if whole = [] ∧ fraction.getD [] = [] then none
    else some { sign := sign, whole := whole, fraction := fraction, exponent := exponent }
  | none => none

end Reading

namespace Exponent

def chars (e : Exponent) : List Char := 'e' :: e.sign.chars ++ e.digits

def value (e : Exponent) : ℤ :=
  let n : ℤ := Nat.ofDigitChars 10 e.digits 0
  if e.sign = .minus then -n else n

end Exponent

namespace Literal

def middle (l : Literal) : List Char :=
  match l.fraction with
  | some ds => '.' :: ds
  | none => []

def tail (l : Literal) : List Char :=
  match l.exponent with
  | some e => e.chars
  | none => []

def chars (l : Literal) : List Char := l.sign.chars ++ (l.whole ++ (l.middle ++ l.tail))

def mantissa (l : Literal) : List Char := l.whole ++ l.fraction.getD []

def scale (l : Literal) : ℤ :=
  (match l.exponent with
    | some e => e.value
    | none => 0) - (l.fraction.getD []).length

def magnitude (l : Literal) : ℚ := Nat.ofDigitChars 10 l.mantissa 0 * 10 ^ l.scale

def negative (l : Literal) : Bool := l.sign = .minus

def integer (l : Literal) : ℤ :=
  let n : ℤ := Nat.ofDigitChars 10 l.whole 0
  if l.negative then -n else n

def IsInteger (l : Literal) : Prop := l.fraction = none ∧ l.exponent = none

instance (l : Literal) : Decidable l.IsInteger := inferInstanceAs (Decidable (_ ∧ _))

structure WellFormed (l : Literal) : Prop where
  whole : ∀ c ∈ l.whole, c.isDigit
  fraction : ∀ ds, l.fraction = some ds → ∀ c ∈ ds, c.isDigit
  exponent : ∀ e, l.exponent = some e → e.digits ≠ [] ∧ ∀ c ∈ e.digits, c.isDigit
  nonempty : l.mantissa ≠ []

end Literal

section Chars

theorem isBlank_digit {c : Char} (digit : c.isDigit) : isBlank c = false := by
  simp only [Char.isDigit, Bool.and_eq_true, decide_eq_true_eq, ge_iff_le, UInt32.le_iff_toNat_le]
    at digit
  have lower : 48 ≤ c.toNat := digit.1
  simp only [isBlank, Bool.or_eq_false_iff, beq_eq_false_iff_ne, Bool.and_eq_false_iff,
    decide_eq_false_iff_not]
  omega

theorem Sign.isBlank_chars {sign : Sign} {c : Char} (h : c ∈ sign.chars) : isBlank c = false := by
  cases sign <;> simp [chars] at h <;> subst h <;> decide

theorem Sign.read_chars (sign : Sign) {s : List Char}
    (unsigned : s.head? ≠ some '+' ∧ s.head? ≠ some '-') :
    Sign.read (sign.chars ++ s) = (sign, s) := by
  cases sign with
  | none =>
    change Sign.read s = _
    unfold Sign.read
    split
    · simp at unsigned
    · simp at unsigned
    · rfl
  | plus => rfl
  | minus => rfl

theorem takeWhile_digits {ds s : List Char} (digits : ∀ c ∈ ds, c.isDigit)
    (rest : ∀ c, s.head? = some c → ¬ c.isDigit) :
    (ds ++ s).takeWhile Char.isDigit = ds ∧ (ds ++ s).dropWhile Char.isDigit = s := by
  have none : s.takeWhile Char.isDigit = [] ∧ s.dropWhile Char.isDigit = s := by
    cases s with
    | nil => exact ⟨rfl, rfl⟩
    | cons c s =>
      have other := rest c rfl
      simp [other]
  rw [List.takeWhile_append_of_pos digits, List.dropWhile_append_of_pos digits, none.1, none.2]
  simp

theorem trim_eq {s : List Char} (solid : ∀ c ∈ s, isBlank c = false) : trim s = s := by
  have front : s.dropWhile isBlank = s := by
    cases s with
    | nil => rfl
    | cons c s => simp [solid c]
  unfold trim
  rw [front, List.rdropWhile_eq_self_iff]
  intro nonempty
  simp [solid _ (List.getLast_mem nonempty)]

end Chars

namespace Literal
variable {l : Literal}

theorem readExponent_tail (ok : l.WellFormed) : readExponent l.tail = some l.exponent := by
  unfold tail
  cases exponent : l.exponent with
  | none => rfl
  | some e =>
    obtain ⟨nonempty, digits⟩ := ok.exponent e exponent
    have unsigned : e.digits.head? ≠ some '+' ∧ e.digits.head? ≠ some '-' := by
      constructor
      · intro h
        have digit := digits _ (List.mem_of_mem_head? h)
        exact absurd digit (by decide)
      · intro h
        have digit := digits _ (List.mem_of_mem_head? h)
        exact absurd digit (by decide)
    have reading := Sign.read_chars e.sign unsigned
    simp only [Exponent.chars, List.cons_append, readExponent, reading]
    rw [if_pos ⟨Or.inl trivial, nonempty, by simpa using digits⟩]

theorem head_tail {c : Char} (h : l.tail.head? = some c) : c = 'e' := by
  unfold tail at h
  cases exponent : l.exponent with
  | none => simp [exponent] at h
  | some e => simpa [exponent, Exponent.chars, eq_comm] using h

theorem readFraction_middle (ok : l.WellFormed) :
    readFraction (l.middle ++ l.tail) = (l.fraction, l.tail) := by
  have stops : ∀ c, l.tail.head? = some c → ¬ c.isDigit := by
    intro c h
    rw [head_tail h]
    decide
  unfold middle
  cases fraction : l.fraction with
  | none =>
    unfold readFraction
    split
    · rename_i s point
      have dot := head_tail (l := l) (c := '.') (by rw [← List.nil_append l.tail, point]; rfl)
      cases dot
    · rfl
  | some ds =>
    obtain ⟨taken, dropped⟩ := takeWhile_digits (ok.fraction ds fraction) stops
    simp [readFraction, taken, dropped]

theorem head_middle {c : Char} (h : (l.middle ++ l.tail).head? = some c) : c = '.' ∨ c = 'e' := by
  unfold middle at h
  cases fraction : l.fraction with
  | none =>
    rw [fraction] at h
    exact Or.inr (head_tail h)
  | some ds =>
    rw [fraction] at h
    simp only [List.cons_append, List.head?_cons, Option.some.injEq] at h
    exact Or.inl h.symm

theorem isBlank_chars (ok : l.WellFormed) {c : Char} (h : c ∈ l.chars) : isBlank c = false := by
  simp only [chars, List.mem_append] at h
  rcases h with sign | whole | middle | tail
  · exact Sign.isBlank_chars sign
  · exact isBlank_digit (ok.whole c whole)
  · unfold Literal.middle at middle
    cases fraction : l.fraction with
    | none => simp [fraction] at middle
    | some ds =>
      rw [fraction] at middle
      rcases List.mem_cons.mp middle with rfl | digit
      · decide
      · exact isBlank_digit (ok.fraction ds fraction c digit)
  · unfold Literal.tail at tail
    cases exponent : l.exponent with
    | none => simp [exponent] at tail
    | some e =>
      simp only [exponent, Exponent.chars, List.cons_append, List.mem_cons, List.mem_append] at tail
      rcases tail with rfl | sign | digit
      · decide
      · exact Sign.isBlank_chars sign
      · exact isBlank_digit ((ok.exponent e exponent).2 c digit)

theorem read_chars (ok : l.WellFormed) : read l.chars = some l := by
  have solid := trim_eq (s := l.chars) fun c h => isBlank_chars ok h
  have unsigned : (l.whole ++ (l.middle ++ l.tail)).head? ≠ some '+' ∧
      (l.whole ++ (l.middle ++ l.tail)).head? ≠ some '-' := by
    cases whole : l.whole with
    | nil =>
      simp only [List.nil_append]
      constructor <;> intro h <;> rcases head_middle h with h | h <;> cases h
    | cons c cs =>
      have digit := ok.whole c (by simp [whole])
      simp only [List.cons_append, List.head?_cons, ne_eq, Option.some.injEq]
      constructor <;> rintro rfl <;> exact absurd digit (by decide)
  have stops : ∀ c, (l.middle ++ l.tail).head? = some c → ¬ c.isDigit := by
    intro c h
    rcases head_middle h with rfl | rfl <;> decide
  obtain ⟨taken, dropped⟩ := takeWhile_digits ok.whole stops
  have some_digit : ¬ (l.whole = [] ∧ l.fraction.getD [] = []) := by
    rintro ⟨whole, fraction⟩
    exact ok.nonempty (by simp [mantissa, whole, fraction])
  unfold read
  rw [solid, chars, Sign.read_chars l.sign unsigned]
  simp only [taken, dropped, readFraction_middle ok, readExponent_tail ok, if_neg some_digit]

def ofInt (n : ℤ) : Literal :=
  { sign := if n < 0 then .minus else .none, whole := Nat.toDigits 10 n.natAbs
    fraction := none, exponent := none }

theorem wellFormed_ofInt (n : ℤ) : (ofInt n).WellFormed := by
  refine ⟨?_, ?_, ?_, ?_⟩
  · intro c h
    exact Nat.isDigit_of_mem_toDigits (by decide) (by decide) h
  · intro ds h
    cases h
  · intro e h
    cases h
  · simp [mantissa, ofInt, Nat.toDigits_ne_nil]

theorem integer_ofInt (n : ℤ) : (ofInt n).integer = n := by
  unfold integer negative ofInt
  by_cases negative : n < 0
  · simp [negative, Nat.ofDigitChars_ten_toDigits, abs_of_neg negative]
  · simp [negative, Nat.ofDigitChars_ten_toDigits]
    omega

theorem chars_ofInt (n : ℤ) : (ofInt n).chars = (toString n).toList := by
  cases n with
  | ofNat m =>
    have positive : ¬ ((m : ℤ) < 0) := by omega
    simp [chars, middle, tail, ofInt, positive, Sign.chars, toString, Int.repr]
  | negSucc m =>
    simp [chars, middle, tail, ofInt, Sign.chars, toString, Int.repr]

def pointed (p : ℕ) (ds : List Char) : List Char × List Char :=
  (ds.take p, if ds.drop p = [] then ['0'] else ds.drop p)

theorem value_pointed {p : ℕ} {ds : List Char} (inside : p ≤ ds.length) :
    (Nat.ofDigitChars 10 ((pointed p ds).1 ++ (pointed p ds).2) 0 : ℚ) *
        10 ^ (-((pointed p ds).2.length : ℤ)) =
      Nat.ofDigitChars 10 ds 0 * 10 ^ ((p : ℤ) - ds.length) := by
  unfold pointed
  by_cases all : ds.drop p = []
  · have whole : ds.length = p := by
      have short := List.drop_eq_nil_iff.mp all
      omega
    have taken : ds.take p = ds := by rw [← whole, List.take_length]
    simp only [all, if_true, taken, whole]
    rw [Nat.ofDigitChars_append, Nat.ofDigitChars_cons]
    simp
    ring
  · simp only [all, if_false, List.take_append_drop, List.length_drop]
    congr 2
    omega

def exponentOf (x : ℤ) : Exponent :=
  let ds := Nat.toDigits 10 x.natAbs
  { sign := if x < 0 then .minus else .plus, digits := if ds.length < 2 then '0' :: ds else ds }

theorem value_exponentOf (x : ℤ) : (exponentOf x).value = x := by
  have digits : Nat.ofDigitChars 10 (exponentOf x).digits 0 = x.natAbs := by
    unfold exponentOf
    dsimp only
    split <;> simp [Nat.ofDigitChars_cons, Nat.ofDigitChars_ten_toDigits]
  unfold Exponent.value
  rw [digits]
  unfold exponentOf
  by_cases negative : x < 0
  · simp [negative, abs_of_neg negative]
  · simp [negative]
    omega

def withPoint (sign : Sign) (p : ℕ) (ds : List Char) (exponent : Option Exponent) : Literal :=
  { sign := sign, whole := (pointed p ds).1, fraction := some (pointed p ds).2
    exponent := exponent }

/-- `c * 10 ^ e` in the way of `%!.15g`: with an exponent from `1e15` on and below
    `0.0001`, and always with a point. -/
def ofDecimal (negative : Bool) (c : ℕ) (e : ℤ) : Literal :=
  let ds := Nat.toDigits 10 c
  let x := e + ds.length - 1
  let sign := if negative then Sign.minus else .none
  if x < -4 ∨ 15 ≤ x then withPoint sign 1 ds (some (exponentOf x))
  else if 0 ≤ x then withPoint sign (x + 1).toNat (ds ++ List.replicate e.toNat '0') none
  else withPoint sign 1 (List.replicate (-x).toNat '0' ++ ds) none

theorem magnitude_withPoint {p : ℕ} {ds : List Char} (inside : p ≤ ds.length) (sign : Sign)
    (exponent : Option Exponent) : (withPoint sign p ds exponent).magnitude =
      Nat.ofDigitChars 10 ds 0 * 10 ^ ((match exponent with
        | some e => e.value
        | none => 0) + (p : ℤ) - ds.length) := by
  unfold withPoint magnitude mantissa scale
  dsimp only [Option.getD_some]
  rw [sub_eq_add_neg, zpow_add₀ (by norm_num), mul_left_comm, value_pointed inside, ← mul_assoc,
    mul_comm _ (Nat.ofDigitChars 10 ds 0 : ℚ), mul_assoc, ← zpow_add₀ (by norm_num), add_sub_assoc]

theorem magnitude_ofDecimal (negative : Bool) (c : ℕ) (e : ℤ) :
    (ofDecimal negative c e).magnitude = c * 10 ^ e := by
  have digits : Nat.ofDigitChars 10 (Nat.toDigits 10 c) 0 = c := Nat.ofDigitChars_ten_toDigits
  have some_digit : 0 < (Nat.toDigits 10 c).length := Nat.length_toDigits_pos
  unfold ofDecimal
  dsimp only
  split
  · rw [magnitude_withPoint (by omega), digits]
    dsimp only
    rw [value_exponentOf]
    congr 2
    omega
  · split
    · rw [magnitude_withPoint (by simp; omega), Nat.ofDigitChars_append, digits,
        Nat.ofDigitChars_replicate_zero]
      push_cast
      rw [mul_comm ((10 : ℚ) ^ e.toNat), mul_assoc, ← zpow_natCast, ← zpow_add₀ (by norm_num)]
      congr 2
      simp
      omega
    · rw [magnitude_withPoint (by simp; omega), Nat.ofDigitChars_append,
        Nat.ofDigitChars_replicate_zero, mul_zero, digits]
      congr 2
      simp
      omega

theorem wellFormed_withPoint {p : ℕ} {ds : List Char} (digits : ∀ c ∈ ds, c.isDigit)
    (sign : Sign) {exponent : Option Exponent}
    (ok : ∀ e, exponent = some e → e.digits ≠ [] ∧ ∀ c ∈ e.digits, c.isDigit) :
    (withPoint sign p ds exponent).WellFormed := by
  refine ⟨?_, ?_, ok, ?_⟩
  · intro c h
    exact digits c (List.mem_of_mem_take h)
  · rintro _ ⟨⟩ c h
    unfold pointed at h
    dsimp only at h
    split at h
    · rw [List.mem_singleton.mp h]
      decide
    · exact digits c (List.mem_of_mem_drop h)
  · unfold mantissa withPoint pointed
    dsimp only [Option.getD_some]
    split
    · simp
    · rename_i more
      intro none
      exact more (List.append_eq_nil_iff.mp none).2

theorem wellFormed_ofDecimal (negative : Bool) (c : ℕ) (e : ℤ) :
    (ofDecimal negative c e).WellFormed := by
  have digits : ∀ n, ∀ d ∈ Nat.toDigits 10 n, d.isDigit :=
    fun n d h => Nat.isDigit_of_mem_toDigits (by decide) (by decide) h
  have zeros : ∀ n, ∀ d ∈ List.replicate n '0', d.isDigit := by
    intro n d h
    rw [List.eq_of_mem_replicate h]
    decide
  unfold ofDecimal
  dsimp only
  split
  · apply wellFormed_withPoint (digits c)
    rintro e ⟨⟩
    unfold exponentOf
    dsimp only
    split
    · exact ⟨by simp, List.forall_mem_cons.mpr ⟨by decide, digits _⟩⟩
    · exact ⟨Nat.toDigits_ne_nil, digits _⟩
  · split
    · apply wellFormed_withPoint (List.forall_mem_append.mpr ⟨digits c, zeros _⟩)
      simp
    · apply wellFormed_withPoint (List.forall_mem_append.mpr ⟨zeros _, digits c⟩)
      simp

end Literal

end Decimals

import MusicCloud.Doubles

/-!
Text in a column of NUMERIC affinity. Text that is a literal is stored as a number,
an INTEGER where one of 64 bits does, and comes back as the text of that number.
-/
namespace Affinity
open Decimals Doubles

inductive Value where
  | integer (n : ℤ)
  | real (negative : Bool) (magnitude : ℚ)
  | infinite (negative : Bool)
  | text (s : String)
  deriving DecidableEq, Repr

/-- The conversion of text that is stored in a NUMERIC column. -/
def numeric (s : String) : Value :=
  match read s.toList with
  | none => .text s
  | some l =>
    if l.IsInteger ∧ -2 ^ 63 ≤ l.integer ∧ l.integer < 2 ^ 63 then .integer l.integer
    else match nearest l.magnitude with
      | none => .infinite l.negative
      | some y =>
        if y.den = 1 ∧ y.num < 2 ^ 63 then .integer (if l.negative then -y.num else y.num)
        else .real l.negative y

def Value.getString : Value → String
  | integer n => toString n
  | real negative y => String.ofList (Literal.ofDecimal negative (fifteen y).1 (fifteen y).2).chars
  | infinite negative => if negative then "-Inf" else "Inf"
  | text s => s

/-- A number of at most fifteen digits in the layout of `%!.15g` whose double tells
    these digits and is no integer below `2 ^ 63`. -/
def PlainReal (s : String) : Prop :=
  ∃ negative c e y, s.toList = (Literal.ofDecimal negative c e).chars ∧
    0 < c ∧ c < 10 ^ 15 ∧ c % 10 ≠ 0 ∧ Carries c e y ∧ ¬ (y.den = 1 ∧ y.num < 2 ^ 63)

variable {s : String}

theorem negative_ofDecimal (negative : Bool) (c : ℕ) (e : ℤ) :
    (Literal.ofDecimal negative c e).negative = negative := by
  have sign : (Literal.ofDecimal negative c e).sign = if negative then .minus else .none := by
    unfold Literal.ofDecimal
    dsimp only
    split
    · rfl
    · split <;> rfl
  unfold Literal.negative
  rw [sign]
  cases negative <;> rfl

/-- A fraction in the printed layout stays as it is. -/
theorem plainReal_fraction (negative : Bool) {c : ℕ} {e : ℤ} (short : c < 10 ^ 15)
    (last : c % 10 ≠ 0) (normal : 2 ^ (-1022 : ℤ) ≤ (c * 10 ^ e : ℚ)) (fraction : e < 0) :
    PlainReal (String.ofList (Literal.ofDecimal negative c e).chars) := by
  obtain ⟨y, carries, broken⟩ := carries_fraction short last normal fraction
  refine ⟨negative, c, e, y, String.toList_ofList, by omega, short, last, carries, ?_⟩
  intro small
  exact broken small.1

end Affinity

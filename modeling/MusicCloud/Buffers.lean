import Mathlib

/-!
Reading a list into a buffer of fixed size, chunk by chunk. Entries that have not been
read are blank.
-/
namespace Buffers
variable {α : Type*}

def write (buffer : List α) (off : Nat) (chunk : List α) : List α :=
  buffer.take off ++ chunk ++ buffer.drop (off + chunk.length)

def filled (source : List α) (blank : α) (size n : Nat) : List α :=
  source.take n ++ List.replicate (size - n) blank

section Filled
variable {source : List α} {blank : α} {size n : Nat}

theorem filled_zero : filled source blank size 0 = List.replicate size blank := by
  simp [filled]

theorem length_filled (read : n ≤ source.length) (room : n ≤ size) :
    (filled source blank size n).length = size := by
  simp only [filled, List.length_append, List.length_take, List.length_replicate]
  omega

theorem write_filled {k : Nat} (left : n + k ≤ source.length) (room : n + k ≤ size) :
    write (filled source blank size n) n ((source.drop n).take k) =
      filled source blank size (n + k) := by
  have done : (source.take n).length = n := by simp; omega
  have chunk : ((source.drop n).take k).length = k := by simp; omega
  have before : (filled source blank size n).take n = source.take n := by
    unfold filled
    rw [List.take_append_of_le_length (le_of_eq done.symm)]
    exact List.take_of_length_le (le_of_eq done)
  have after : (filled source blank size n).drop (n + k) = List.replicate (size - (n + k)) blank := by
    unfold filled
    rw [List.drop_append, done, List.drop_eq_nil_of_le (by omega), List.nil_append,
      List.drop_replicate]
    congr 1
    omega
  unfold write
  rw [chunk, before, after, ← List.take_add]
  rfl

/-- What is in the buffer when the buffer or the source is used up is the source exactly
    if they are of one size. -/
theorem filled_eq_source_iff :
    filled source blank size (min size source.length) = source ↔ size = source.length := by
  constructor
  · intro whole
    have size := congrArg List.length whole
    rwa [length_filled (min_le_right _ _) (min_le_left _ _)] at size
  · rintro rfl
    simp [filled]

end Filled

end Buffers

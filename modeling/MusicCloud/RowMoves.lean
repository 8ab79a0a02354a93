import Mathlib

/-!
Rows that move at once, read one move after another. A mark that is rewritten at each move
of its row takes a move that was meant for another row once the row it has come to is still
to be moved.
-/
namespace RowMoves
section Marks
variable {α : Type*} [DecidableEq α]

/-- The mark goes with its row. -/
def follow (marked : Option α) (move : α × α) : Option α :=
  if marked = some move.1 then some move.2 else marked

def followAll (moves : List (α × α)) (marked : Option α) : Option α :=
  moves.foldl follow marked

@[simp] theorem followAll_nil (marked : Option α) : followAll [] marked = marked := rfl

@[simp] theorem followAll_cons (move : α × α) (moves : List (α × α)) (marked : Option α) :
    followAll (move :: moves) marked = followAll moves (follow marked move) := rfl

theorem followAll_append (first second : List (α × α)) (marked : Option α) :
    followAll (first ++ second) marked = followAll second (followAll first marked) :=
  List.foldl_append

@[simp] theorem followAll_none (moves : List (α × α)) : followAll moves none = none := by
  induction moves with
  | nil => rfl
  | cons move moves ih => exact ih

theorem followAll_stays {moves : List (α × α)} {row : α} (unmoved : row ∉ moves.map Prod.fst) :
    followAll moves (some row) = some row := by
  induction moves with
  | nil => rfl
  | cons move moves ih =>
    rw [List.map_cons, List.mem_cons, not_or] at unmoved
    have here : follow (some row) move = some row :=
      if_neg fun same => unmoved.1 (Option.some.inj same)
    rw [followAll_cons, here]
    exact ih unmoved.2

theorem followAll_moves {moves : List (α × α)} {row : α} (moved : row ∈ moves.map Prod.fst) :
    ∃ last ∈ moves.map Prod.snd, followAll moves (some row) = some last := by
  induction moves generalizing row with
  | nil => cases moved
  | cons move moves ih =>
    rw [followAll_cons, List.map_cons]
    by_cases here : row = move.1
    · rw [follow, if_pos (by rw [here])]
      by_cases again : move.2 ∈ moves.map Prod.fst
      · obtain ⟨last, listed, final⟩ := ih again
        exact ⟨last, List.mem_cons_of_mem _ listed, final⟩
      · exact ⟨move.2, List.mem_cons_self, followAll_stays again⟩
    · have later := (List.mem_cons.mp moved).resolve_left here
      rw [follow, if_neg fun same => here (Option.some.inj same)]
      obtain ⟨last, listed, final⟩ := ih later
      exact ⟨last, List.mem_cons_of_mem _ listed, final⟩

end Marks

section Rows
variable {α : Type*} [LinearOrder α]

/-- The moves of a table, in the order of the rows: no two go to one row, and each goes to
    a row of the table. -/
structure Rearrange (moves : List (α × α)) : Prop where
  ordered : (moves.map Prod.fst).Pairwise (· < ·)
  apart : (moves.map Prod.snd).Nodup
  within : moves.map Prod.snd ⊆ moves.map Prod.fst

/-- The mark of a row comes to where the row comes exactly if the row does not move to a
    later one. -/
theorem followAll_iff {moves : List (α × α)} (h : Rearrange moves) {old new : α}
    (moved : (old, new) ∈ moves) : followAll moves (some old) = some new ↔ new ≤ old := by
  obtain ⟨before, after, rfl⟩ := List.append_of_mem moved
  have ordered := h.ordered
  simp only [List.map_append, List.map_cons, List.pairwise_append, List.pairwise_cons] at ordered
  obtain ⟨_, ⟨later, _⟩, earlier⟩ := ordered
  have untouched : old ∉ before.map Prod.fst :=
    fun listed => lt_irrefl old (earlier old listed old List.mem_cons_self)
  have arrives : followAll (before ++ (old, new) :: after) (some old) = followAll after (some new) := by
    rw [followAll_append, followAll_stays untouched, followAll_cons, follow, if_pos rfl]
  rw [arrives]
  constructor
  · intro kept
    by_contra down
    have below := lt_of_not_ge down
    -- the row below is moved in its turn, and the mark with it
    have target : new ∈ after.map Prod.fst := by
      have row := h.within (List.mem_map_of_mem moved)
      simp only [List.map_append, List.map_cons, List.mem_append, List.mem_cons] at row
      obtain row | row | row := row
      · exact absurd below (lt_asymm (earlier new row old List.mem_cons_self))
      · exact absurd row (ne_of_gt below)
      · exact row
    obtain ⟨last, listed, final⟩ := followAll_moves target
    have apart := h.apart
    simp only [List.map_append, List.map_cons, List.nodup_append, List.nodup_cons] at apart
    rw [final, Option.some.injEq] at kept
    exact apart.2.1.1 (kept ▸ listed)
  · intro up
    apply followAll_stays
    intro row
    exact absurd (later new row) (not_lt_of_ge up)

end Rows
end RowMoves

import Mathlib

/-!
Choosing what has been left alone for longest. A history lists the items that
have been started, each with the time of its start, the latest first. An item is
released when the next one starts; `released` is that moment for its latest use,
or 0. When the start times increase, an item that was released no later than
every other is not among the latest ones.
-/
namespace LeastRecent
variable {A : Type*}

def released [DecidableEq A] (a : A) : List (A × Nat) → Nat
  | [] => 0
  | [_] => 0
  | (_, now) :: (b, before) :: rest => if b = a then now else released a ((b, before) :: rest)

def Ticks (h : List (A × Nat)) : Prop := (h.map Prod.snd).Pairwise (· > ·)

theorem Ticks.tail {x : A × Nat} {h : List (A × Nat)} (ticks : Ticks (x :: h)) : Ticks h :=
  (List.pairwise_cons.mp ticks).2

theorem Ticks.head_lt {x y : A × Nat} {h : List (A × Nat)} (ticks : Ticks (x :: y :: h)) :
    y.2 < x.2 :=
  (List.pairwise_cons.mp ticks).1 y.2 (by simp)

section Released
variable [DecidableEq A]

theorem released_le (a : A) {x : A × Nat} {h : List (A × Nat)} (ticks : Ticks (x :: h)) :
    released a (x :: h) ≤ x.2 := by
  induction h generalizing x with
  | nil => simp [released]
  | cons y h ih =>
    have bound := ih ticks.tail
    obtain ⟨first, now⟩ := x
    obtain ⟨second, before⟩ := y
    have later := ticks.head_lt
    unfold released
    dsimp only at bound later ⊢
    split <;> omega

theorem released_lt {a b : A} {h : List (A × Nat)} (ticks : Ticks h) {n : Nat}
    (recent : a ∈ (h.map Prod.fst).take n) (stale : b ∉ (h.map Prod.fst).take n)
    (ended : (h.map Prod.fst).head? ≠ some a) : released b h < released a h := by
  induction h generalizing n with
  | nil => simp at recent
  | cons x h ih =>
    cases h with
    | nil =>
      cases n with
      | zero => simp at recent
      | succ n => simp_all
    | cons y h =>
      obtain ⟨first, now⟩ := x
      obtain ⟨second, before⟩ := y
      cases n with
      | zero => simp at recent
      | succ n =>
        simp only [List.map_cons, List.take_succ_cons, List.mem_cons, not_or] at recent stale
        have other : a ≠ first := by
          intro same
          simp [same] at ended
        have recent := recent.resolve_left other
        have missing : second ≠ b := by
          intro same
          cases n with
          | zero => simp at recent
          | succ n => simp [same] at stale
        unfold released
        rw [if_neg missing]
        by_cases last : second = a
        · rw [if_pos last]
          have bound := released_le b ticks.tail
          have later := ticks.head_lt
          dsimp only at bound later
          omega
        · rw [if_neg last]
          apply ih ticks.tail (n := n)
          · exact recent
          · exact stale.2
          · simpa using last

theorem not_recent {items : List A} (distinct : items.Nodup) {h : List (A × Nat)} (ticks : Ticks h)
    {a : A} (ended : (h.map Prod.fst).head? ≠ some a)
    (least : ∀ b ∈ items, (h.map Prod.fst).head? ≠ some b → released a h ≤ released b h) :
    a ∉ (h.map Prod.fst).take (items.length - 1) := by
  intro recent
  have positive : 0 < items.length - 1 := by
    by_contra none
    have zero : items.length - 1 = 0 := by omega
    simp [zero] at recent
  obtain ⟨b, listed, stale⟩ : ∃ b ∈ items, b ∉ (h.map Prod.fst).take (items.length - 1) := by
    by_contra all
    have covered : items ⊆ (h.map Prod.fst).take (items.length - 1) := by
      intro b listed
      by_contra stale
      exact all ⟨b, listed, stale⟩
    have fits := (distinct.subperm covered).length_le
    rw [List.length_take] at fits
    omega
  have idle : (h.map Prod.fst).head? ≠ some b := by
    intro head
    apply stale
    cases ids : h.map Prod.fst with
    | nil => simp [ids] at head
    | cons first rest =>
      obtain ⟨m, hm⟩ : ∃ m, items.length - 1 = m + 1 := ⟨items.length - 2, by omega⟩
      rw [hm, List.take_succ_cons]
      simp_all
  have earlier := released_lt ticks recent stale ended
  have later := least b listed idle
  omega

end Released

/-- Items that follow one another are different, as many as the given length. -/
def Fair (n : Nat) (h : List A) : Prop := ∀ window, window <:+: h → window.length ≤ n → window.Nodup

theorem fair_nil (n : Nat) : Fair n ([] : List A) := by
  intro window part _
  rw [List.infix_nil.mp part]
  exact List.nodup_nil

theorem Fair.cons {n : Nat} {a : A} {h : List A} (fair : Fair n h) (fresh : a ∉ h.take (n - 1)) :
    Fair n (a :: h) := by
  intro window part short
  rcases List.infix_cons_iff.mp part with front | inside
  · cases window with
    | nil => exact List.nodup_nil
    | cons first rest =>
      obtain ⟨rfl, later⟩ := List.cons_prefix_cons.mp front
      rw [List.length_cons] at short
      refine List.nodup_cons.mpr ⟨?_, fair rest later.isInfix (by omega)⟩
      intro again
      have latest : rest <+: h.take (n - 1) := by
        rw [List.prefix_iff_eq_take.mp later]
        exact List.take_prefix_take_left (by omega)
      exact fresh (latest.subset again)
  · exact fair window inside short

theorem Fair.reverse {n : Nat} {h : List A} (fair : Fair n h) : Fair n h.reverse := by
  intro window part short
  have turned : window.reverse <:+: h := by
    have same := List.reverse_infix.mpr part
    rwa [List.reverse_reverse] at same
  exact List.nodup_reverse.mp (fair window.reverse turned (by rwa [List.length_reverse]))

end LeastRecent

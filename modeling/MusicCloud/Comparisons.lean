import Mathlib

/-!
Three-valued comparisons of the entries of a list, and the sorts that rely on them. A
sort rearranges any list, and it promises an ordered result for comparisons that keep the
laws.
-/
namespace Comparisons
variable {α : Type*} {cmp : α → α → Ordering} {l : List α}

/-- The laws of a comparison, among the entries of the list. -/
structure Proper (cmp : α → α → Ordering) (l : List α) : Prop where
  lt_iff_gt : ∀ a ∈ l, ∀ b ∈ l, cmp a b = .lt ↔ cmp b a = .gt
  eq_symm : ∀ a ∈ l, ∀ b ∈ l, cmp a b = .eq → cmp b a = .eq
  eq_trans : ∀ a ∈ l, ∀ b ∈ l, ∀ c ∈ l, cmp a b = .eq → cmp b c = .eq → cmp a c = .eq
  lt_trans : ∀ a ∈ l, ∀ b ∈ l, ∀ c ∈ l, cmp a b = .lt → cmp b c = .lt → cmp a c = .lt

theorem proper_of_transCmp [Std.TransCmp cmp] (l : List α) : Proper cmp l where
  lt_iff_gt _ _ _ _ := Std.OrientedCmp.gt_iff_lt.symm
  eq_symm _ _ _ _ := Std.OrientedCmp.eq_symm
  eq_trans _ _ _ _ _ _ := Std.TransCmp.eq_trans
  lt_trans _ _ _ _ _ _ := Std.TransCmp.lt_trans

theorem Proper.congr {cmp' : α → α → Ordering} (h : Proper cmp l)
    (same : ∀ a ∈ l, ∀ b ∈ l, cmp' a b = cmp a b) : Proper cmp' l := by
  constructor
  · intro a ha b hb
    rw [same a ha b hb, same b hb a ha]
    exact h.lt_iff_gt a ha b hb
  · intro a ha b hb
    rw [same a ha b hb, same b hb a ha]
    exact h.eq_symm a ha b hb
  · intro a ha b hb c hc
    rw [same a ha b hb, same b hb c hc, same a ha c hc]
    exact h.eq_trans a ha b hb c hc
  · intro a ha b hb c hc
    rw [same a ha b hb, same b hb c hc, same a ha c hc]
    exact h.lt_trans a ha b hb c hc

theorem Proper.comap {β : Type*} {f : β → α} {m : List β} (h : Proper cmp (m.map f)) :
    Proper (fun a b => cmp (f a) (f b)) m where
  lt_iff_gt _ ha _ hb := h.lt_iff_gt _ (List.mem_map_of_mem ha) _ (List.mem_map_of_mem hb)
  eq_symm _ ha _ hb := h.eq_symm _ (List.mem_map_of_mem ha) _ (List.mem_map_of_mem hb)
  eq_trans _ ha _ hb _ hc :=
    h.eq_trans _ (List.mem_map_of_mem ha) _ (List.mem_map_of_mem hb) _ (List.mem_map_of_mem hc)
  lt_trans _ ha _ hb _ hc :=
    h.lt_trans _ (List.mem_map_of_mem ha) _ (List.mem_map_of_mem hb) _ (List.mem_map_of_mem hc)

section Proper
variable (h : Proper cmp l)
include h

theorem Proper.total {a b : α} (ha : a ∈ l) (hb : b ∈ l) (after : cmp a b = .gt) : cmp b a = .lt :=
  (h.lt_iff_gt b hb a ha).mpr after

theorem Proper.le_trans {a b c : α} (ha : a ∈ l) (hb : b ∈ l) (hc : c ∈ l)
    (first : cmp a b ≠ .gt) (second : cmp b c ≠ .gt) : cmp a c ≠ .gt := by
  intro after
  have before := h.total ha hc after
  cases ab : cmp a b with
  | gt => exact first ab
  | lt =>
    have cb := h.lt_trans c hc a ha b hb before ab
    exact second ((h.lt_iff_gt c hc b hb).mp cb)
  | eq =>
    cases bc : cmp b c with
    | gt => exact second bc
    | lt =>
      have ba := h.lt_trans b hb c hc a ha bc before
      rw [h.eq_symm a ha b hb ab] at ba
      cases ba
    | eq =>
      rw [h.eq_trans a ha b hb c hc ab bc] at after
      cases after

end Proper

/-- A sort that knows the entries by a comparison. What it makes of a list whose
    comparison breaks the laws is any order at all. -/
structure Sorter (α : Type*) where
  sort : (α → α → Ordering) → List α → List α
  perm : ∀ cmp l, (sort cmp l).Perm l
  sorted : ∀ cmp l, Proper cmp l → (sort cmp l).Pairwise fun a b => cmp a b ≠ .gt

def Sorter.merge (α : Type*) : Sorter α where
  sort cmp l := (l.attach.mergeSort fun a b => cmp a b != .gt).map Subtype.val
  perm cmp l := by
    have perm := (List.mergeSort_perm l.attach fun a b => cmp a b != .gt).map Subtype.val
    rwa [List.attach_map_subtype_val] at perm
  sorted cmp l h := by
    rw [List.pairwise_map]
    have sorted := @List.pairwise_mergeSort _ (fun a b : { x // x ∈ l } => cmp a b != .gt)
      (by
        intro a b c first second
        simp only [bne_iff_ne] at first second ⊢
        exact h.le_trans a.2 b.2 c.2 first second)
      (by
        intro a b
        by_cases after : cmp a b = .gt
        · simp [h.total a.2 b.2 after]
        · simp [after])
      l.attach
    exact sorted.imp fun before => bne_iff_ne.mp before

end Comparisons

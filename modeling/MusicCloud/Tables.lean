import Mathlib

/-!
Tables as lists of rows, with the SQL statements that act on them: insertion
that replaces the row of equal key, grouping with a count, the left outer join
and ordering. Rows, keys and orders are arbitrary.
-/
namespace Tables
variable {R K A : Type*}

def insertOrReplace [DecidableEq K] (key : R → K) (row : R) (rows : List R) : List R :=
  rows.filter (fun r => key r ≠ key row) ++ [row]

def groupCount [DecidableEq K] (key : R → K) (rows : List R) : List (K × Nat) :=
  (rows.map key).dedup.map fun k => (k, (rows.map key).count k)

/-- `LEFT OUTER JOIN`: a left row without a partner is kept once. -/
def leftOuterJoin (on : A → R → Bool) (left : List A) (right : List R) : List (A × Option R) :=
  left.flatMap fun a =>
    match right.filter (on a) with
    | [] => [(a, none)]
    | found => found.map fun r => (a, some r)

def orderBy (before : R → R → Bool) (rows : List R) : List R :=
  rows.insertionSort (fun a b => before a b = true)

section InsertOrReplace
variable [DecidableEq K] (key : R → K)

theorem mem_insertOrReplace {row r : R} {rows : List R} :
    r ∈ insertOrReplace key row rows ↔ r = row ∨ (r ∈ rows ∧ key r ≠ key row) := by
  simp only [insertOrReplace, List.mem_append, List.mem_filter, List.mem_singleton,
    decide_eq_true_eq]
  exact Or.comm

theorem mem_column_insertOrReplace {C : Type*} (column : R → C) (row : R) (rows : List R)
    (ofKey : ∀ r, key r = key row → column r = column row) {c : C} :
    c ∈ (insertOrReplace key row rows).map column ↔ c ∈ rows.map column ∨ c = column row := by
  simp only [List.mem_map]
  constructor
  · rintro ⟨r, hr, rfl⟩
    rcases (mem_insertOrReplace key).mp hr with rfl | ⟨old, -⟩
    · exact Or.inr rfl
    · exact Or.inl ⟨r, old, rfl⟩
  · rintro (⟨r, hr, rfl⟩ | rfl)
    · by_cases same : key r = key row
      · exact ⟨row, (mem_insertOrReplace key).mpr (Or.inl rfl), (ofKey r same).symm⟩
      · exact ⟨r, (mem_insertOrReplace key).mpr (Or.inr ⟨hr, same⟩), rfl⟩
    · exact ⟨row, (mem_insertOrReplace key).mpr (Or.inl rfl), rfl⟩

theorem keys_nodup_insertOrReplace {rows : List R} (nodup : (rows.map key).Nodup) (row : R) :
    ((insertOrReplace key row rows).map key).Nodup := by
  simp only [insertOrReplace, List.map_append, List.map_cons, List.map_nil]
  refine List.Nodup.append ?_ (List.nodup_singleton _) ?_
  · exact nodup.sublist (List.filter_sublist.map key)
  · intro k hk last
    obtain ⟨r, hr, eq⟩ := List.mem_map.mp hk
    have differs : key r ≠ key row := by simpa using (List.mem_filter.mp hr).2
    exact differs (eq.trans (List.mem_singleton.mp last))

end InsertOrReplace

section KeyedRows
variable {key : R → K}

theorem keys_nodup_filter {rows : List R} (nodup : (rows.map key).Nodup) (p : R → Bool) :
    ((rows.filter p).map key).Nodup :=
  nodup.sublist (List.filter_sublist.map key)

theorem row_unique {rows : List R} (nodup : (rows.map key).Nodup) {a b : R}
    (ha : a ∈ rows) (hb : b ∈ rows) (same : key a = key b) : a = b :=
  List.inj_on_of_nodup_map nodup ha hb same

theorem filter_key_eq [DecidableEq K] {rows : List R} (nodup : (rows.map key).Nodup) {a : R}
    (ha : a ∈ rows) : rows.filter (fun r => key r = key a) = [a] := by
  induction rows with
  | nil => cases ha
  | cons r rows ih =>
    have apart : ∀ b ∈ rows, key b ≠ key r := by
      intro b hb same
      exact (List.nodup_cons.mp nodup).1 (List.mem_map.mpr ⟨b, hb, same⟩)
    rcases List.mem_cons.mp ha with rfl | later
    · rw [List.filter_cons_of_pos (by simp)]
      rw [List.filter_eq_nil_iff.mpr (by simpa using apart)]
    · rw [List.filter_cons_of_neg (by simpa using fun same => apart a later same.symm)]
      exact ih (List.nodup_cons.mp nodup).2 later

end KeyedRows

section GroupCount
variable [DecidableEq K]

theorem filter_groupCount (key : R → K) (rows : List R) (k : K) :
    (groupCount key rows).filter (fun g => decide (k = g.1)) =
      if k ∈ rows.map key then [(k, (rows.map key).count k)] else [] := by
  have pick : ∀ ks : List K, ks.Nodup → (ks.map fun j => (j, (rows.map key).count j)).filter
      (fun g => decide (k = g.1)) = if k ∈ ks then [(k, (rows.map key).count k)] else [] := by
    intro ks
    induction ks with
    | nil => simp
    | cons j ks ih =>
      intro nodup
      obtain ⟨fresh, distinct⟩ := List.nodup_cons.mp nodup
      by_cases same : k = j
      · subst same
        rw [List.map_cons, List.filter_cons, ih distinct]
        simp only [fresh, List.mem_cons_self, decide_true, if_true, if_false]
      · rw [List.map_cons, List.filter_cons, ih distinct]
        simp only [same, List.mem_cons, false_or, decide_false, Bool.false_eq_true, if_false]
  simpa [groupCount] using pick _ (List.nodup_dedup (rows.map key))

theorem leftOuterJoin_groupCount (f : A → K) (key : R → K) (left : List A) (rows : List R) :
    leftOuterJoin (fun a g => decide (f a = g.1)) left (groupCount key rows) =
      left.map fun a => (a, if f a ∈ rows.map key
        then some (f a, (rows.map key).count (f a)) else none) := by
  simp only [leftOuterJoin, filter_groupCount]
  induction left with
  | nil => rfl
  | cons a left ih =>
    rw [List.flatMap_cons, ih, List.map_cons]
    by_cases present : f a ∈ rows.map key
    · simp only [if_pos present]
      rfl
    · simp only [if_neg present]
      rfl

theorem sum_groupCount (key : R → K) (p : K → Bool) (rows : List R) :
    (((groupCount key rows).filter fun g => p g.1).map Prod.snd).sum =
      rows.countP fun r => p (key r) := by
  have counts := List.sum_map_count_dedup_filter_eq_countP p (rows.map key)
  rw [List.countP_map] at counts
  rw [groupCount, List.filter_map, List.map_map]
  exact counts

theorem sum_countP_le (key : R → K) {keys : List K} (nodup : keys.Nodup) (rows : List R) :
    (keys.map fun k => rows.countP fun r => key r = k).sum ≤ rows.length := by
  induction rows with
  | nil => simp
  | cons r rows ih =>
    have single : (keys.map fun k => if key r = k then 1 else 0).sum ≤ 1 := by
      have count : ∀ ks : List K,
          (ks.map fun k => if key r = k then 1 else 0).sum = ks.count (key r) := by
        intro ks
        induction ks with
        | nil => rfl
        | cons k ks ih =>
          rw [List.map_cons, List.sum_cons, ih, List.count_cons]
          simp only [beq_iff_eq, eq_comm (a := k)]
          omega
      rw [count]
      exact List.nodup_iff_count_le_one.mp nodup (key r)
    have split : (keys.map fun k => (r :: rows).countP fun r => key r = k).sum =
        (keys.map fun k => rows.countP fun r => key r = k).sum +
          (keys.map fun k => if key r = k then 1 else 0).sum := by
      rw [← List.sum_map_add]
      congr 1
      refine List.map_congr_left fun k _ => ?_
      simp [List.countP_cons]
    rw [split, List.length_cons]
    omega

end GroupCount

theorem mem_orderBy (before : R → R → Bool) {r : R} {rows : List R} :
    r ∈ orderBy before rows ↔ r ∈ rows := List.mem_insertionSort _

theorem orderBy_eq_nil (before : R → R → Bool) {rows : List R} :
    orderBy before rows = [] ↔ rows = [] := by
  constructor
  · intro h
    have := List.perm_insertionSort (fun a b => before a b = true) rows
    rw [orderBy] at h
    rw [h] at this
    exact this.nil_eq.symm
  · rintro rfl
    rfl

theorem orderBy_perm (before : R → R → Bool) (rows : List R) : (orderBy before rows).Perm rows :=
  List.perm_insertionSort _ rows

theorem orderBy_pairwise {before : R → R → Bool}
    (total : ∀ a b, before a b = true ∨ before b a = true)
    (trans : ∀ a b c, before a b = true → before b c = true → before a c = true) (rows : List R) :
    (orderBy before rows).Pairwise fun a b => before a b = true := by
  have : Std.Total fun a b => before a b = true := ⟨total⟩
  have : IsTrans R fun a b => before a b = true := ⟨trans⟩
  exact List.pairwise_insertionSort (fun a b => before a b = true) rows

theorem head_orderBy {before : R → R → Bool} (total : ∀ a b, before a b = true ∨ before b a = true)
    (trans : ∀ a b c, before a b = true → before b c = true → before a c = true) {first : R}
    {rows : List R} (head : (orderBy before rows).head? = some first) :
    ∀ r ∈ rows, before first r = true := by
  have sorted := orderBy_pairwise total trans rows
  intro r hr
  have listed := (mem_orderBy before).mpr hr
  cases ordered : orderBy before rows with
  | nil => simp [ordered] at head
  | cons x rest =>
    rw [ordered] at sorted head listed
    have same : x = first := by simpa using head
    subst same
    rcases List.mem_cons.mp listed with rfl | later
    · rcases total r r with now | now <;> exact now
    · exact (List.pairwise_cons.mp sorted).1 r later

end Tables

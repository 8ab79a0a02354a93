import MusicCloud.Tables

/-!
A keyed table against the log of events that wrote it. An event may put a value
under a key, which replaces the one before, and may clear values. An entry stands
when the last event that put something under its key put it, and no event since
has cleared it; `Records` says that the rows are exactly the standing entries.
-/
namespace Ledgers
open Tables
variable {E K V R : Type*} (puts : E → Option (K × V)) (clears : E → K → V → Prop)

/-- The last value put under the key is this one, and it has not been cleared since. -/
def Standing (events : List E) (k : K) (v : V) : Prop :=
  ∃ before e after, events = before ++ e :: after ∧ puts e = some (k, v) ∧
    ∀ later ∈ after, (∀ w, puts later ≠ some (k, w)) ∧ ¬ clears later k v

variable {puts clears}

theorem not_standing_nil {k : K} {v : V} : ¬ Standing puts clears [] k v := by
  rintro ⟨before, e, after, split, -⟩
  simp at split

theorem standing_concat {events : List E} {e : E} {k : K} {v : V} :
    Standing puts clears (events ++ [e]) k v ↔ puts e = some (k, v) ∨
      (Standing puts clears events k v ∧ (∀ w, puts e ≠ some (k, w)) ∧ ¬ clears e k v) := by
  constructor
  · rintro ⟨before, first, after, split, put, since⟩
    rcases List.eq_nil_or_concat after with rfl | ⟨after, last, rfl⟩
    · obtain ⟨-, same⟩ := List.append_inj' split rfl
      cases same
      exact Or.inl put
    · have split : events ++ [e] = (before ++ first :: after) ++ [last] := by simpa using split
      obtain ⟨rfl, same⟩ := List.append_inj' split rfl
      cases same
      exact Or.inr ⟨⟨before, first, after, rfl, put, fun l hl => since l (by simp [hl])⟩,
        since e (by simp)⟩
  · rintro (put | ⟨⟨before, first, after, rfl, put, since⟩, now⟩)
    · exact ⟨events, e, [], rfl, put, by simp⟩
    · refine ⟨before, first, after ++ [e], by simp, put, ?_⟩
      intro later hlater
      rcases List.mem_append.mp hlater with old | new
      · exact since later old
      · rw [List.mem_singleton.mp new]
        exact now

variable (puts clears) in
/-- The rows, with distinct keys, are exactly the standing entries. -/
structure Records (key : R → K) (value : R → V) (rows : List R) (events : List E) : Prop where
  nodup : (rows.map key).Nodup
  entries : ∀ k v, (∃ r ∈ rows, key r = k ∧ value r = v) ↔ Standing puts clears events k v

section Records
variable {key : R → K} {value : R → V} {rows : List R} {events : List E} {e : E}

theorem records_nil : Records puts clears key value [] [] :=
  ⟨List.nodup_nil, fun _ _ => by simp [not_standing_nil]⟩

theorem Records.unique (h : Records puts clears key value rows events) {k : K} {v w : V}
    (first : Standing puts clears events k v) (second : Standing puts clears events k w) :
    v = w := by
  obtain ⟨a, ha, hak, rfl⟩ := (h.entries k v).mpr first
  obtain ⟨b, hb, hbk, rfl⟩ := (h.entries k w).mpr second
  rw [row_unique h.nodup ha hb (hak.trans hbk.symm)]

theorem Records.put [DecidableEq K] (h : Records puts clears key value rows events) {row : R}
    (put : puts e = some (key row, value row)) (clean : ∀ k v, ¬ clears e k v) :
    Records puts clears key value (insertOrReplace key row rows) (events ++ [e]) := by
  refine ⟨keys_nodup_insertOrReplace key h.nodup row, fun k v => ?_⟩
  rw [standing_concat, ← h.entries, put]
  constructor
  · rintro ⟨r, hr, rfl, rfl⟩
    rcases (mem_insertOrReplace key).mp hr with rfl | ⟨old, other⟩
    · exact Or.inl rfl
    · refine Or.inr ⟨⟨r, old, rfl, rfl⟩, fun w same => ?_, clean _ _⟩
      exact other (Prod.mk.inj (Option.some.inj same)).1.symm
  · rintro (same | ⟨⟨r, hr, rfl, rfl⟩, other, -⟩)
    · cases same
      exact ⟨row, (mem_insertOrReplace key).mpr (.inl rfl), rfl, rfl⟩
    · refine ⟨r, (mem_insertOrReplace key).mpr (.inr ⟨hr, fun same => ?_⟩), rfl, rfl⟩
      exact other (value row) (by rw [same])

theorem Records.clear (h : Records puts clears key value rows events) (kept : R → Bool)
    (silent : puts e = none) (agree : ∀ r, kept r = true ↔ ¬ clears e (key r) (value r)) :
    Records puts clears key value (rows.filter kept) (events ++ [e]) := by
  refine ⟨keys_nodup_filter h.nodup _, fun k v => ?_⟩
  rw [standing_concat, ← h.entries, silent]
  constructor
  · rintro ⟨r, hr, rfl, rfl⟩
    obtain ⟨old, left⟩ := List.mem_filter.mp hr
    exact Or.inr ⟨⟨r, old, rfl, rfl⟩, by simp, (agree r).mp left⟩
  · rintro (none | ⟨⟨r, hr, rfl, rfl⟩, -, uncleared⟩)
    · cases none
    · exact ⟨r, List.mem_filter.mpr ⟨hr, (agree r).mpr uncleared⟩, rfl, rfl⟩

theorem Records.skip (h : Records puts clears key value rows events) (silent : puts e = none)
    (clean : ∀ k v, ¬ clears e k v) : Records puts clears key value rows (events ++ [e]) := by
  have same := h.clear (fun _ => true) silent (by simp [clean])
  simpa using same

theorem records_cleared (silent : puts e = none) (cleared : ∀ k v, clears e k v) :
    Records puts clears key value [] (events ++ [e]) :=
  ⟨List.nodup_nil, fun k v => by simp [standing_concat, silent, cleared]⟩

theorem Records.count (h : Records puts clears key value rows events) (p : R → Bool)
    (q : K → V → Prop) (agree : ∀ r, p r = true ↔ q (key r) (value r)) :
    rows.countP p = Set.ncard {k | ∃ v, Standing puts clears events k v ∧ q k v} := by
  classical
  have keys : {k | ∃ v, Standing puts clears events k v ∧ q k v} =
      (((rows.filter p).map key).toFinset : Set K) := by
    ext k
    simp only [Set.mem_ofPred_eq, List.coe_toFinset, List.mem_map, List.mem_filter]
    constructor
    · rintro ⟨v, standing, hq⟩
      obtain ⟨r, hr, rfl, rfl⟩ := (h.entries k v).mpr standing
      exact ⟨r, ⟨hr, (agree r).mpr hq⟩, rfl⟩
    · rintro ⟨r, ⟨hr, hp⟩, rfl⟩
      exact ⟨value r, (h.entries _ _).mp ⟨r, hr, rfl, rfl⟩, (agree r).mp hp⟩
  rw [keys, Set.ncard_coe_finset, List.toFinset_card_of_nodup (keys_nodup_filter h.nodup p),
    List.length_map, List.countP_eq_length_filter]

end Records

end Ledgers

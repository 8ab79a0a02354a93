import Mathlib

/-!
Runs of a total step function over a list of labels. A label that is not
enabled in a state leaves that state unchanged, so a run is a left fold.
`StepsMeet` restricts a run by a condition on each label and the state
before it; the invariant rules are the only inductions over runs.
-/
namespace Runs
variable {S L : Type*}

def run (step : S → L → S) (s : S) (ls : List L) : S := ls.foldl step s

/-- Every step of the run meets the condition in the state it starts from. -/
def StepsMeet (step : S → L → S) (cond : S → L → Prop) : S → List L → Prop
  | _, [] => True
  | s, l :: ls => cond s l ∧ StepsMeet step cond (step s l) ls

def trace (step : S → L → S) : S → List L → List (S × L)
  | _, [] => []
  | s, l :: ls => (s, l) :: trace step (step s l) ls

def decideStepsMeet (step : S → L → S) (cond : S → L → Prop) [∀ s l, Decidable (cond s l)] :
    ∀ (s : S) (ls : List L), Decidable (StepsMeet step cond s ls)
  | _, [] => .isTrue trivial
  | s, l :: ls =>
    have := decideStepsMeet step cond (step s l) ls
    inferInstanceAs (Decidable (cond s l ∧ StepsMeet step cond (step s l) ls))

instance (step : S → L → S) (cond : S → L → Prop) [∀ s l, Decidable (cond s l)] (s : S)
    (ls : List L) : Decidable (StepsMeet step cond s ls) :=
  decideStepsMeet step cond s ls

variable (step : S → L → S)

@[simp] theorem run_nil (s : S) : run step s [] = s := rfl

@[simp] theorem run_cons (s : S) (l : L) (ls : List L) :
    run step s (l :: ls) = run step (step s l) ls := rfl

theorem run_append (s : S) (as bs : List L) :
    run step s (as ++ bs) = run step (run step s as) bs := by
  simp [run, List.foldl_append]

theorem run_concat (s : S) (ls : List L) (l : L) :
    run step s (ls ++ [l]) = step (run step s ls) l := by
  simp [run_append]

theorem trace_concat (s : S) (ls : List L) (l : L) :
    trace step s (ls ++ [l]) = trace step s ls ++ [(run step s ls, l)] := by
  induction ls generalizing s with
  | nil => rfl
  | cons first ls ih => simp [trace, ih]

theorem stepsMeet_append (cond : S → L → Prop) (s : S) (as bs : List L) :
    StepsMeet step cond s (as ++ bs) ↔
      StepsMeet step cond s as ∧ StepsMeet step cond (run step s as) bs := by
  induction as generalizing s with
  | nil => simp [StepsMeet]
  | cons a as ih => simp [StepsMeet, ih, and_assoc]

theorem stepsMeet_concat (cond : S → L → Prop) (s : S) (ls : List L) (l : L) :
    StepsMeet step cond s (ls ++ [l]) ↔
      StepsMeet step cond s ls ∧ cond (run step s ls) l := by
  simp [stepsMeet_append, StepsMeet]

theorem stepsMeet_and (cond cond' : S → L → Prop) (s : S) (ls : List L) :
    StepsMeet step (fun s l => cond s l ∧ cond' s l) s ls ↔
      StepsMeet step cond s ls ∧ StepsMeet step cond' s ls := by
  induction ls generalizing s with
  | nil => simp [StepsMeet]
  | cons l ls ih =>
    simp only [StepsMeet, ih]
    tauto

theorem stepsMeet_of_forall (cond : S → L → Prop) (ls : List L) (s : S)
    (all : ∀ l ∈ ls, ∀ s, cond s l) : StepsMeet step cond s ls := by
  induction ls generalizing s with
  | nil => trivial
  | cons l ls ih =>
    exact ⟨all l List.mem_cons_self s, ih _ fun k hk => all k (List.mem_cons_of_mem l hk)⟩

theorem invariant_of_stepsMeet {cond : S → L → Prop} (inv : S → Prop)
    (keep : ∀ s l, inv s → cond s l → inv (step s l)) :
    ∀ (ls : List L) (s : S), inv s → StepsMeet step cond s ls → inv (run step s ls) := by
  intro ls
  induction ls with
  | nil => intro s start _; exact start
  | cons l ls ih =>
    intro s start meets
    exact ih (step s l) (keep s l start meets.1) meets.2

theorem stepsMeet_of_invariant {cond cond' : S → L → Prop} (inv : S → Prop)
    (keep : ∀ s l, inv s → cond s l → inv (step s l))
    (weaken : ∀ s l, inv s → cond s l → cond' s l) :
    ∀ (ls : List L) (s : S), inv s → StepsMeet step cond s ls → StepsMeet step cond' s ls := by
  intro ls
  induction ls with
  | nil => intro s _ _; trivial
  | cons l ls ih =>
    intro s start meets
    exact ⟨weaken s l start meets.1, ih (step s l) (keep s l start meets.1) meets.2⟩

/-- Two conditions that say the same under an invariant, which each of them keeps. -/
theorem stepsMeet_iff_of_invariant {cond cond' given : S → L → Prop} (inv : S → Prop)
    (keep : ∀ s l, inv s → cond s l → inv (step s l))
    (same : ∀ s l, inv s → given s l → (cond s l ↔ cond' s l)) :
    ∀ (ls : List L) (s : S), inv s → StepsMeet step given s ls →
      (StepsMeet step cond s ls ↔ StepsMeet step cond' s ls) := by
  intro ls
  induction ls with
  | nil => intro s _ _; exact Iff.rfl
  | cons l ls ih =>
    intro s start meets
    have first := same s l start meets.1
    constructor
    · rintro ⟨now, rest⟩
      exact ⟨first.mp now, (ih (step s l) (keep s l start now) meets.2).mp rest⟩
    · rintro ⟨now, rest⟩
      have kept := keep s l start (first.mpr now)
      exact ⟨first.mpr now, (ih (step s l) kept meets.2).mpr rest⟩

theorem invariant_of_run (inv : S → Prop) (keep : ∀ s l, inv s → inv (step s l))
    (ls : List L) (s : S) (start : inv s) : inv (run step s ls) := by
  induction ls generalizing s with
  | nil => exact start
  | cons l ls ih => exact ih (step s l) (keep s l start)

/-- The condition on the steps is exact when, under an invariant that every step
    keeps, it decides whether a property survives a step. -/
theorem holds_throughout_iff {cond : S → L → Prop} (inv good : S → Prop)
    (keep : ∀ s l, inv s → inv (step s l))
    (same : ∀ s l, inv s → good s → (good (step s l) ↔ cond s l)) :
    ∀ (ls : List L) (s : S), inv s → good s →
      ((∀ n, good (run step s (ls.take n))) ↔ StepsMeet step cond s ls) := by
  intro ls
  induction ls with
  | nil =>
    intro s _ now
    simpa [StepsMeet] using now
  | cons l ls ih =>
    intro s start now
    have rest := ih (step s l) (keep s l start)
    constructor
    · intro always
      have next : good (step s l) := by simpa using always 1
      refine ⟨(same s l start now).mp next, (rest next).mp fun n => ?_⟩
      simpa using always (n + 1)
    · rintro ⟨first, later⟩ n
      have next : good (step s l) := (same s l start now).mpr first
      cases n with
      | zero => simpa using now
      | succ n => simpa using (rest next).mpr later n

theorem run_coded {C K : Type*} (coded : C → K → C) (code : S → C) (label : K → L) (inv : S → Prop)
    (keep : ∀ s l, inv s → inv (step s l))
    (same : ∀ s k, inv s → coded (code s) k = code (step s (label k))) :
    ∀ (ks : List K) (s : S), inv s → run coded (code s) ks = code (run step s (ks.map label)) := by
  intro ks
  induction ks with
  | nil => intro s _; rfl
  | cons k ks ih =>
    intro s start
    rw [run_cons, same s k start, List.map_cons, run_cons]
    exact ih _ (keep s (label k) start)

/-- Two step functions make the same run, when they agree in sound states that are good and a
    good state only comes from good ones. -/
theorem run_same {step' : S → L → S} {inv good : S → Prop} (keep : ∀ s l, inv s → inv (step s l))
    (back : ∀ s l, inv s → good (step s l) → good s)
    (same : ∀ s l, inv s → good s → step' s l = step s l) :
    ∀ (ls : List L) (s : S), inv s → good (run step s ls) → run step' s ls = run step s ls := by
  have first : ∀ (ls : List L) (s : S), inv s → good (run step s ls) → good s := by
    intro ls
    induction ls with
    | nil => exact fun s _ final => final
    | cons l ls ih =>
      intro s start final
      exact back s l start (ih (step s l) (keep s l start) final)
  intro ls
  induction ls with
  | nil => exact fun s _ _ => rfl
  | cons l ls ih =>
    intro s start final
    rw [run_cons, run_cons, same s l start (first (l :: ls) s start final)]
    exact ih (step s l) (keep s l start) final

/-- A quantity that a step raises by one at most, and only a step that pays for it. -/
theorem run_le_paid (inv : S → Prop) (keep : ∀ s l, inv s → inv (step s l)) (value : S → Nat)
    (pays : S → L → Bool)
    (grows : ∀ s l, inv s → value (step s l) ≤ value s + if pays s l then 1 else 0) (ls : List L) :
    ∀ s, inv s →
      value (run step s ls) ≤ value s + (trace step s ls).countP fun x => pays x.1 x.2 := by
  induction ls with
  | nil => exact fun s _ => Nat.le_refl _
  | cons l ls ih =>
    intro s start
    have first := grows s l start
    have rest := ih (step s l) (keep s l start)
    rw [run_cons, trace, List.countP_cons]
    dsimp only
    omega

end Runs

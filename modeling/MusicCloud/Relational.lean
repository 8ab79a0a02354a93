import MusicCloud.Runs

/-!
Two runs of one system, from related states. A program is blind to a relation on
states when from related states it gives one result and related states again: it
neither reads nor shows what the relation leaves open. Two runs that differ only
in steps of some kind stay related when these steps alone keep the relation.
-/
namespace Relational
open Runs
variable {ε σ α β : Type} {R : σ → σ → Prop}

inductive Same (R : σ → σ → Prop) : EStateM.Result ε σ α → EStateM.Result ε σ α → Prop
  | ok {a : α} {s t : σ} (related : R s t) : Same R (.ok a s) (.ok a t)
  | error {e : ε} {s t : σ} (related : R s t) : Same R (.error e s) (.error e t)

def Blind (R : σ → σ → Prop) (m : EStateM ε σ α) : Prop := ∀ s t, R s t → Same R (m s) (m t)

namespace Blind

theorem pure (a : α) : Blind R (pure a : EStateM ε σ α) := by
  intro s t related
  exact .ok related

theorem throw (e : ε) : Blind R (throw e : EStateM ε σ α) := by
  intro s t related
  exact .error related

theorem throw_bind (e : ε) (f : α → EStateM ε σ β) :
    Blind R ((MonadExcept.throw e : EStateM ε σ α) >>= f) := by
  intro s t related
  exact .error related

theorem modify {f : σ → σ} (keeps : ∀ s t, R s t → R (f s) (f t)) :
    Blind R (modify f : EStateM ε σ PUnit) := by
  intro s t related
  exact .ok (keeps s t related)

theorem bind {m : EStateM ε σ α} {f : α → EStateM ε σ β} (first : Blind R m)
    (rest : ∀ a, Blind R (f a)) : Blind R (m >>= f) := by
  intro s t related
  have step := first s t related
  change Same R (EStateM.bind m f s) (EStateM.bind m f t)
  unfold EStateM.bind
  generalize m s = x at step ⊢
  generalize m t = y at step ⊢
  cases step with
  | ok related => exact rest _ _ _ related
  | error related => exact .error related

theorem get {f : σ → EStateM ε σ α} (same : ∀ s t, R s t → f s = f t)
    (rest : ∀ s, Blind R (f s)) : Blind R (get >>= f) := by
  intro s t related
  change Same R (f s s) (f t t)
  rw [same s t related]
  exact rest t s t related

theorem tryCatch {m : EStateM ε σ α} {handler : ε → EStateM ε σ α} (body : Blind R m)
    (rest : ∀ e, Blind R (handler e)) : Blind R (tryCatch m handler) := by
  intro s t related
  have step := body s t related
  change Same R (EStateM.tryCatch m handler s) (EStateM.tryCatch m handler t)
  unfold EStateM.tryCatch
  generalize m s = x at step ⊢
  generalize m t = y at step ⊢
  cases step with
  | ok related => exact .ok related
  | error related => exact rest _ _ _ related

end Blind

section TwoRuns
variable {L : Type} {step : σ → L → σ} {extra : σ → L → Prop}

/-- Two runs with the same labels, apart from extra ones in either. -/
inductive Differ (step : σ → L → σ) (extra : σ → L → Prop) : σ → List L → σ → List L → Prop
  | done (s t : σ) : Differ step extra s [] t []
  | both {s t : σ} (l : L) {ls ms : List L} (rest : Differ step extra (step s l) ls (step t l) ms) :
      Differ step extra s (l :: ls) t (l :: ms)
  | left {s t : σ} (l : L) {ls ms : List L} (added : extra s l)
      (rest : Differ step extra (step s l) ls t ms) : Differ step extra s (l :: ls) t ms
  | right {s t : σ} (l : L) {ls ms : List L} (added : extra t l)
      (rest : Differ step extra s ls (step t l) ms) : Differ step extra s ls t (l :: ms)

theorem related_of_differ (inv : σ → Prop) (stable : ∀ s l, inv s → inv (step s l))
    (trans : ∀ s t u, R s t → R t u → R s u) (symm : ∀ s t, R s t → R t s)
    (keeps : ∀ s t l, R s t → R (step s l) (step t l))
    (silent : ∀ s l, inv s → extra s l → R s (step s l)) {s t : σ} {ls ms : List L}
    (differ : Differ step extra s ls t ms) (left : inv s) (right : inv t) (related : R s t) :
    R (run step s ls) (run step t ms) := by
  induction differ with
  | done s t => exact related
  | both l rest ih => exact ih (stable _ l left) (stable _ l right) (keeps _ _ l related)
  | left l added rest ih =>
    have back := symm _ _ (silent _ l left added)
    exact ih (stable _ l left) right (trans _ _ _ back related)
  | right l added rest ih =>
    exact ih left (stable _ l right) (trans _ _ _ related (silent _ l right added))

theorem Differ.imp {other : σ → L → Prop} (inv : σ → Prop) (stable : ∀ s l, inv s → inv (step s l))
    (imp : ∀ s l, inv s → extra s l → other s l) {s t : σ} {ls ms : List L}
    (differ : Differ step extra s ls t ms) (left : inv s) (right : inv t) :
    Differ step other s ls t ms := by
  induction differ with
  | done s t => exact .done s t
  | both l rest ih => exact .both l (ih (stable _ l left) (stable _ l right))
  | left l added rest ih => exact .left l (imp _ l left added) (ih (stable _ l left) right)
  | right l added rest ih => exact .right l (imp _ l right added) (ih left (stable _ l right))

end TwoRuns
end Relational

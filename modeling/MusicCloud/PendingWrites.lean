import Mathlib

/-!
A connection to a database whose writes are pending until a commit. A program reads things
that may fail to be read, and enters in the pending database what it has read, one thing
after another. If one of them cannot be read, what is committed is what was committed before.
-/
namespace PendingWrites
variable {ε σ α β γ : Type}

structure Connection (σ : Type) where
  committed : σ
  pending : σ

abbrev ConnectionM (ε σ : Type) := EStateM ε (Connection σ)

def opened (s : σ) : Connection σ := { committed := s, pending := s }

def execute (w : σ → σ) : ConnectionM ε σ Unit :=
  modify fun c => { c with pending := w c.pending }

def executeCommitted (w : σ → σ) : ConnectionM ε σ Unit := modify fun c => opened (w c.pending)

def commit : ConnectionM ε σ Unit := modify fun c => opened c.pending

abbrev Entry (β γ σ : Type) := β × σ → γ → β × σ

/-- What was read has been entered, or something could not be read and what is committed is
    as it was. -/
def Entered (enter : Entry β γ σ) (b : β) (c : Connection σ)
    (r : EStateM.Result ε (Connection σ) β) : Except ε (List γ) → Prop
  | .ok gs =>
    r = .ok (gs.foldl enter (b, c.pending)).1 { c with pending := (gs.foldl enter (b, c.pending)).2 }
  | .error e => ∃ c' : Connection σ, r = .error e c' ∧ c'.committed = c.committed

def Committed (enter : Entry β γ σ) (b : β) (c : Connection σ)
    (r : EStateM.Result ε (Connection σ) Unit) : Except ε (List γ) → Prop
  | .ok gs => r = .ok () (opened (gs.foldl enter (b, c.pending)).2)
  | .error e => ∃ c' : Connection σ, r = .error e c' ∧ c'.committed = c.committed

/-- A step of a program: from any count, it enters all that it reads. -/
def Collects (enter : Entry β γ σ) (m : β → ConnectionM ε σ β) (x : Except ε (List γ)) : Prop :=
  ∀ b c, Entered enter b c (m b c) x

def collect (read : α → Except ε (List γ)) : List α → Except ε (List γ)
  | [] => .ok []
  | a :: l => do
    let gs ← read a
    let hs ← collect read l
    return gs ++ hs

theorem bind_ok_iff {x : Except ε α} {f : α → Except ε β} {b : β} :
    x >>= f = .ok b ↔ ∃ a, x = .ok a ∧ f a = .ok b := by
  cases x <;> simp [bind, Except.bind]

section Collecting
variable {enter : Entry β γ σ}

theorem Collects.pure : Collects enter (pure : β → ConnectionM ε σ β) (.ok []) := fun _ _ => rfl

theorem Collects.bind {m k : β → ConnectionM ε σ β} {x y : Except ε (List γ)}
    (first : Collects enter m x) (second : Collects enter k y) :
    Collects enter (fun b => m b >>= k) (do let gs ← x; let hs ← y; return gs ++ hs) := by
  intro b c
  have step := first b c
  change Entered enter b c (EStateM.bind (m b) k c) _
  unfold EStateM.bind
  cases x with
  | error e =>
    obtain ⟨c', failed, kept⟩ := step
    exact ⟨c', by rw [failed], kept⟩
  | ok gs =>
    rw [show m b c = _ from step]
    have next := second (gs.foldl enter (b, c.pending)).1
      { c with pending := (gs.foldl enter (b, c.pending)).2 }
    cases y with
    | error e => exact next
    | ok hs =>
      change _ = _
      rw [List.foldl_append]
      exact next

theorem Collects.check {k : β → ConnectionM ε σ β} {y : Except ε (List γ)} {δ : Type}
    (x : Except ε δ) (rest : Collects enter k y) :
    Collects enter (fun b => MonadExcept.ofExcept x >>= fun _ => k b) (x >>= fun _ => y) := by
  intro b c
  cases x with
  | error e => exact ⟨c, rfl, rfl⟩
  | ok d => exact rest b c

theorem Collects.foldlM {f : β → α → ConnectionM ε σ β} {read : α → Except ε (List γ)}
    (step : ∀ a, Collects enter (fun b => f b a) (read a)) (l : List α) :
    Collects enter (fun b => l.foldlM f b) (collect read l) := by
  induction l with
  | nil => exact Collects.pure
  | cons a l ih =>
    simp only [List.foldlM_cons]
    exact (step a).bind ih

theorem Collects.committed {m : β → ConnectionM ε σ β} {x : Except ε (List γ)}
    (h : Collects enter m x) (b : β) (c : Connection σ) :
    Committed enter b c ((m b >>= fun _ => commit) c) x := by
  have step := h b c
  cases x with
  | error e =>
    obtain ⟨c', failed, kept⟩ := step
    refine ⟨c', ?_, kept⟩
    change EStateM.bind (m b) _ c = _
    rw [EStateM.bind, failed]
  | ok gs =>
    change EStateM.bind (m b) _ c = _
    rw [EStateM.bind, show m b c = _ from step]
    rfl

end Collecting

section Reading
variable {read : α → Except ε (List γ)}

theorem collect_ok_iff {l : List α} :
    (∃ gs, collect read l = .ok gs) ↔ ∀ a ∈ l, ∃ gs, read a = .ok gs := by
  induction l with
  | nil => simp [collect]
  | cons a l ih =>
    rw [List.forall_mem_cons, ← ih, collect]
    simp only [bind_ok_iff]
    constructor
    · rintro ⟨_, gs, here, hs, rest, _⟩
      exact ⟨⟨gs, here⟩, ⟨hs, rest⟩⟩
    · rintro ⟨⟨gs, here⟩, ⟨hs, rest⟩⟩
      exact ⟨gs ++ hs, gs, here, hs, rest, rfl⟩

theorem map_collect {key : Type} {f : γ → key} {keys : α → List key}
    (each : ∀ a gs, read a = .ok gs → gs.map f = keys a) {l : List α} {gs : List γ}
    (collected : collect read l = .ok gs) : gs.map f = l.flatMap keys := by
  induction l generalizing gs with
  | nil =>
    cases collected
    rfl
  | cons a l ih =>
    obtain ⟨hs, here, rest⟩ := bind_ok_iff.mp collected
    obtain ⟨ks, later, joined⟩ := bind_ok_iff.mp rest
    cases joined
    rw [List.map_append, List.flatMap_cons, each a hs here, ih later]

end Reading
end PendingWrites

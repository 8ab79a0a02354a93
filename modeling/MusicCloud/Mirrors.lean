import Mathlib

/-!
Clients that mirror a value of a server. The server sends updates; some of them tell the
value, and the client shows the last value that it has read. `Follows` says that it will
show what the server has once it has read what is still unread. A later update may have
taken the place of an earlier one, and the client may also ask for the value itself.
-/
namespace Mirrors
variable {U V : Type*}

def lastTold (value : U → Option V) (us : List U) : Option V := (us.filterMap value).getLast?

def Leads (value : U → Option V) (us : List U) (before after : Option V) : Prop :=
  (lastTold value us).or before = after

/-- What is unread ends with the value of the source, and so will a client that shows one. -/
structure Follows (value : U → Option V) (unread : List U) (source shown : Option V) : Prop where
  current : Leads value unread source source
  shows : shown ≠ none → Leads value unread shown source

variable {value : U → Option V} {us vs unread : List U} {a b source shown : Option V}

section Told

@[simp] theorem lastTold_nil : lastTold value [] = none := rfl

@[simp] theorem lastTold_singleton (u : U) : lastTold value [u] = value u := by
  unfold lastTold
  cases told : value u <;> simp [told]

theorem lastTold_append : lastTold value (us ++ vs) = (lastTold value vs).or (lastTold value us) := by
  unfold lastTold
  rw [List.filterMap_append, List.getLast?_append]

theorem lastTold_cons (u : U) : lastTold value (u :: us) = (lastTold value us).or (value u) := by
  rw [← List.singleton_append, lastTold_append, lastTold_singleton]

theorem lastTold_eq_none (silent : ∀ u ∈ us, value u = none) : lastTold value us = none := by
  unfold lastTold
  rw [List.filterMap_eq_nil_iff.mpr silent]
  rfl

theorem leads_silent (silent : ∀ u ∈ us, value u = none) : Leads value us a a := by
  rw [Leads, lastTold_eq_none silent, Option.none_or]

theorem leads_told {v : V} (told : lastTold value us = some v) : Leads value us a (some v) := by
  rw [Leads, told, Option.some_or]

theorem Leads.trans {c : Option V} (first : Leads value us a b) (second : Leads value vs b c) :
    Leads value (us ++ vs) a c := by
  unfold Leads at first second ⊢
  rw [lastTold_append, Option.or_assoc, first, second]

end Told

section Following

theorem follows_start : Follows value [] source none :=
  ⟨rfl, fun shown => absurd rfl shown⟩

theorem Follows.announce (h : Follows value unread source shown) {unread' : List U}
    {source' : Option V} (leads : Leads value us source source')
    (last : lastTold value unread' = (lastTold value us).or (lastTold value unread)) :
    Follows value unread' source' shown := by
  have ahead : ∀ a, Leads value unread a source → Leads value unread' a source' := by
    intro a will
    unfold Leads at will leads ⊢
    rw [last, Option.or_assoc, will, leads]
  refine ⟨?_, fun some => ahead shown (h.shows some)⟩
  have current := ahead source h.current
  unfold Leads at current leads ⊢
  rw [last] at current ⊢
  cases told : lastTold value us with
  | some v => simp only [told, Option.some_or] at current ⊢; exact current
  | none =>
    rw [told, Option.none_or] at leads
    rw [told, leads] at current
    exact current

theorem Follows.read {u : U} (h : Follows value (u :: unread) source shown) :
    Follows value unread source ((value u).or shown) := by
  obtain ⟨current, shows⟩ := h
  unfold Leads at current shows
  rw [lastTold_cons, Option.or_assoc] at current
  refine ⟨?_, fun some => ?_⟩
  · unfold Leads
    cases told : lastTold value unread with
    | some v => rw [told] at current; exact current
    | none => rfl
  · unfold Leads
    cases told : value u with
    | some v =>
      rw [told] at current
      exact current
    | none =>
      rw [told, Option.none_or] at some
      rw [Option.none_or]
      have will := shows some
      rw [lastTold_cons, Option.or_assoc, told, Option.none_or] at will
      exact will

theorem Follows.skip {u : U} (h : Follows value (u :: unread) source shown)
    (ignored : value u = none ∨ shown = none) : Follows value unread source shown := by
  have read := h.read
  rcases ignored with silent | rfl
  · rw [silent, Option.none_or] at read
    exact read
  · exact ⟨read.current, fun some => absurd rfl some⟩

theorem Follows.show_iff (h : Follows value unread source shown) (reply : V) :
    Follows value unread source (some reply) ↔ Leads value unread (some reply) source := by
  constructor
  · intro follows
    exact follows.shows (Option.some_ne_none reply)
  · intro leads
    exact ⟨h.current, fun _ => leads⟩

theorem Follows.settled (h : Follows value unread source shown) (silent : ∀ u ∈ unread, value u = none)
    (some : shown ≠ none) : shown = source := by
  have leads := h.shows some
  rw [Leads, lastTold_eq_none silent, Option.none_or] at leads
  exact leads

end Following

end Mirrors

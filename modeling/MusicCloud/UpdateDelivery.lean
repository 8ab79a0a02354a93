import MusicCloud.SessionUpdateQueue

/-!
Runs of one update queue from its empty state. The history of a run is its
list of events; `number` tags every queued update with its position, so that
two equal updates stay apart, and `run_number` shows that the tags do not
change what the queue does.
-/
namespace MusicCloud
open Runs

inductive QueueEvent (Update : Type) where
  | queueUpdate (update : Update)
  | queueRequest (ch : Channel)
  | channelClosed (ch : Channel)
  | closePendingRequests
  deriving DecidableEq, Repr

def QueueEvent.queued {Update : Type} : QueueEvent Update → Option Update
  | .queueUpdate update => some update
  | _ => none

def queuedUpdates {Update : Type} (es : List (QueueEvent Update)) : List Update :=
  es.filterMap QueueEvent.queued

structure QueueState (Update : Type) where
  queue : SessionUpdateQueue Update
  closed : List Channel

theorem queuedUpdates_concat {Update : Type} (es : List (QueueEvent Update))
    (e : QueueEvent Update) :
    queuedUpdates (es ++ [e]) = queuedUpdates es ++ e.queued.toList := by
  cases e <;> simp [queuedUpdates, QueueEvent.queued]

namespace QueueState
variable {Update : Type}

def initial : QueueState Update := { queue := .empty, closed := [] }

def isActive (s : QueueState Update) (ch : Channel) : Bool := !s.closed.contains ch

def step [HasUpdateType Update] (s : QueueState Update) : QueueEvent Update → QueueState Update
  | .queueUpdate update => { s with queue := s.queue.queueUpdate s.isActive update }
  | .queueRequest ch => { s with queue := s.queue.queueRequest ch }
  | .channelClosed ch => { s with closed := ch :: s.closed }
  | .closePendingRequests =>
    { queue := s.queue.closePendingRequests.1
      closed := s.queue.closePendingRequests.2 ++ s.closed }

end QueueState

section History
variable {Update : Type} [HasUpdateType Update]

def runState (es : List (QueueEvent Update)) : QueueState Update :=
  run QueueState.step QueueState.initial es

def runQueue (es : List (QueueEvent Update)) : SessionUpdateQueue Update :=
  (runState es).queue

def ofType (t : UpdateType) (us : List Update) : List Update :=
  us.filter fun u => getUpdateType u = t

/-- `x` was still pending when a later update of its type was queued. -/
def SupersededWhilePending (es : List (QueueEvent Update)) (x : Update) : Prop :=
  ∃ before y after, es = before ++ .queueUpdate y :: after ∧
    getUpdateType y = getUpdateType x ∧ (runQueue before).updates (getUpdateType x) = some x

def PendingFrom (es : List (QueueEvent Update)) (k : Nat) (t : UpdateType) : Prop :=
  ∀ j, k ≤ j → j ≤ es.length → ((runQueue (es.take j)).updates t).isSome

def BecamePendingBefore (es : List (QueueEvent Update)) (t t' : UpdateType) : Prop :=
  ∃ k ≤ es.length, PendingFrom es k t ∧ ¬ PendingFrom es k t'

theorem runQueue_concat (es : List (QueueEvent Update)) (e : QueueEvent Update) :
    runQueue (es ++ [e]) = ((runState es).step e).queue := by
  simp [runQueue, runState, run_concat]

theorem runQueue_queueUpdate (es : List (QueueEvent Update)) (u : Update) :
    runQueue (es ++ [.queueUpdate u]) = (runQueue es).queueUpdate (runState es).isActive u :=
  runQueue_concat es _

theorem runQueue_queueRequest (es : List (QueueEvent Update)) (ch : Channel) :
    runQueue (es ++ [.queueRequest ch]) = (runQueue es).queueRequest ch :=
  runQueue_concat es _

theorem runQueue_channelClosed (es : List (QueueEvent Update)) (ch : Channel) :
    runQueue (es ++ [.channelClosed ch]) = runQueue es :=
  runQueue_concat es _

theorem runQueue_closePendingRequests (es : List (QueueEvent Update)) :
    runQueue (es ++ [.closePendingRequests]) = (runQueue es).closePendingRequests.1 :=
  runQueue_concat es _


theorem queue_consistent (es : List (QueueEvent Update)) : (runQueue es).Consistent := by
  refine invariant_of_run QueueState.step (fun s => s.queue.Consistent) ?_ es _
    SessionUpdateQueue.consistent_empty
  intro s e h
  cases e with
  | queueUpdate u => exact h.queueUpdate _ u
  | queueRequest ch => exact h.queueRequest ch
  | channelClosed ch => exact h
  | closePendingRequests => exact h.closePendingRequests

/-- `queueRequest` would drop the type that it polls. -/
def SessionUpdateQueue.DropsType (q : SessionUpdateQueue Update) : Prop :=
  ∃ t rest, q.updateTypeQueue = t :: rest ∧ q.updates t = none

/-- The type queue lists the keys of the updates, each once, with an update of that type,
    and requests and updates never wait side by side; so no type is dropped. -/
theorem queue_representation (es : List (QueueEvent Update)) :
    (runQueue es).updateTypeQueue.Nodup ∧
    (∀ t, t ∈ (runQueue es).updateTypeQueue ↔ ∃ u, (runQueue es).updates t = some u) ∧
    (∀ t u, (runQueue es).updates t = some u → getUpdateType u = t) ∧
    ((runQueue es).channelQueue = [] ∨ ∀ t, (runQueue es).updates t = none) ∧
    ¬ (runQueue es).DropsType := by
  have consistent := queue_consistent es
  refine ⟨consistent.nodup, ?_, consistent.typed, ?_, ?_⟩
  · intro t
    rw [consistent.keys t, Option.isSome_iff_exists]
  · rcases consistent.oneSided with none | none
    · exact Or.inl none
    · exact Or.inr (consistent.no_updates none)
  · rintro ⟨t, rest, first, absent⟩
    have present := (consistent.keys t).mp (by rw [first]; exact List.mem_cons_self)
    rw [absent] at present
    cases present

/-- Written updates of a type, followed by the pending one, are the queued
    updates of that type with some left out, and never the latest. -/
def InStep (us : List Update) (q : SessionUpdateQueue Update) (t : UpdateType) : Prop :=
  (ofType t q.written ++ (q.updates t).toList).Sublist (ofType t us) ∧
    (ofType t q.written ++ (q.updates t).toList).getLast? = (ofType t us).getLast?

theorem ofType_append (t : UpdateType) (us vs : List Update) :
    ofType t (us ++ vs) = ofType t us ++ ofType t vs := List.filter_append ..

theorem ofType_singleton_same (u : Update) : ofType (getUpdateType u) [u] = [u] := by
  simp [ofType]

theorem ofType_singleton_other {t : UpdateType} {u : Update} (other : t ≠ getUpdateType u) :
    ofType t [u] = [] := by
  simp [ofType, Ne.symm other]

theorem inStep_queueUpdate {us : List Update} {q : SessionUpdateQueue Update}
    (consistent : q.Consistent) (h : ∀ t, InStep us q t) (isActive : Channel → Bool)
    (u : Update) (t : UpdateType) : InStep (us ++ [u]) (q.queueUpdate isActive u) t := by
  obtain ⟨sub, last⟩ := h t
  rcases SessionUpdateQueue.queueUpdate_cases consistent isActive u with
    ⟨ch, rest, -, none, eq⟩ | ⟨-, -, eq⟩ | ⟨-, -, eq⟩
  · -- written at once: nothing of this type can be pending
    have absent := consistent.no_updates none t
    rw [eq]
    simp only [absent, Option.toList_none, List.append_nil] at sub last
    simp only [InStep, SessionUpdateQueue.written, List.map_append, List.map_cons, List.map_nil,
      ofType_append, absent, Option.toList_none, List.append_nil]
    by_cases same : t = getUpdateType u
    · subst t
      simp only [ofType_singleton_same, List.getLast?_concat, and_true]
      exact sub.append (List.Sublist.refl _)
    · simp only [ofType_singleton_other same, List.append_nil]
      exact ⟨sub, last⟩
  all_goals
    rw [eq]
    simp only [InStep, SessionUpdateQueue.written, ofType_append]
    by_cases same : t = getUpdateType u
    · subst t
      simp only [Function.update_self, Option.toList_some, ofType_singleton_same,
        List.getLast?_concat, and_true]
      exact ((List.sublist_append_left _ _).trans sub).append (List.Sublist.refl _)
    · simp only [Function.update_of_ne same, ofType_singleton_other same, List.append_nil]
      exact ⟨sub, last⟩

theorem inStep_queueRequest {us : List Update} {q : SessionUpdateQueue Update}
    (consistent : q.Consistent) (h : ∀ t, InStep us q t) (ch : Channel)
    (t : UpdateType) : InStep us (q.queueRequest ch) t := by
  rcases SessionUpdateQueue.queueRequest_cases consistent ch with
    ⟨s, rest, u, -, hu, eq⟩ | ⟨-, eq⟩
  · have typed := consistent.typed s u hu
    have ht := h t
    rw [eq]
    simp only [InStep, SessionUpdateQueue.written, List.map_append, List.map_cons, List.map_nil,
      ofType_append] at ht ⊢
    by_cases same : t = s
    · subst same
      have single : ofType t [u] = [u] := by rw [← typed]; exact ofType_singleton_same u
      simpa [hu, single] using ht
    · have other : ofType t [u] = [] := ofType_singleton_other (by rw [typed]; exact same)
      simpa [same, other] using ht
  · rw [eq]
    exact h t

theorem inStep_runQueue (es : List (QueueEvent Update)) (t : UpdateType) :
    InStep (queuedUpdates es) (runQueue es) t := by
  induction es using List.reverseRecOn generalizing t with
  | nil => exact ⟨List.Sublist.refl _, rfl⟩
  | append_singleton es e ih =>
    have consistent := queue_consistent es
    rw [queuedUpdates_concat]
    cases e with
    | queueUpdate u =>
      rw [runQueue_queueUpdate]
      exact inStep_queueUpdate consistent ih _ u t
    | queueRequest ch =>
      rw [runQueue_queueRequest]
      simpa [QueueEvent.queued] using inStep_queueRequest consistent ih ch t
    | channelClosed ch =>
      rw [runQueue_channelClosed]
      simpa [QueueEvent.queued] using ih t
    | closePendingRequests =>
      rw [runQueue_closePendingRequests]
      simp only [QueueEvent.queued, Option.toList_none, List.append_nil]
      exact ih t

theorem superseded_concat {es : List (QueueEvent Update)} {x : Update}
    (h : SupersededWhilePending es x) (e : QueueEvent Update) :
    SupersededWhilePending (es ++ [e]) x := by
  obtain ⟨before, y, after, eq, same, held⟩ := h
  exact ⟨before, y, after ++ [e], by simp [eq], same, held⟩

theorem not_lost_queueUpdate (es : List (QueueEvent Update)) (u x : Update)
    (h : x ∈ (runQueue es).written ∨ (runQueue es).updates (getUpdateType x) = some x) :
    x ∈ (runQueue (es ++ [.queueUpdate u])).written ∨
      (runQueue (es ++ [.queueUpdate u])).updates (getUpdateType x) = some x ∨
      SupersededWhilePending (es ++ [.queueUpdate u]) x := by
  have consistent := queue_consistent es
  rw [runQueue_queueUpdate]
  rcases h with sent | held
  · left
    rcases SessionUpdateQueue.queueUpdate_cases consistent (runState es).isActive u with
      ⟨ch, rest, -, -, eq⟩ | ⟨-, -, eq⟩ | ⟨-, -, eq⟩ <;> rw [eq]
    · simp only [SessionUpdateQueue.written, List.map_append] at sent ⊢
      exact List.mem_append_left _ sent
    · exact sent
    · exact sent
  · by_cases same : getUpdateType u = getUpdateType x
    · exact Or.inr (Or.inr ⟨es, u, [], rfl, same, held⟩)
    · refine Or.inr (Or.inl ?_)
      rcases SessionUpdateQueue.queueUpdate_cases consistent (runState es).isActive u with
        ⟨ch, rest, -, -, eq⟩ | ⟨-, -, eq⟩ | ⟨-, -, eq⟩ <;> rw [eq]
      · exact held
      · exact (Function.update_of_ne (Ne.symm same) _ _).trans held
      · exact (Function.update_of_ne (Ne.symm same) _ _).trans held

theorem queued_now (es : List (QueueEvent Update)) (u : Update) :
    u ∈ (runQueue (es ++ [.queueUpdate u])).written ∨
      (runQueue (es ++ [.queueUpdate u])).updates (getUpdateType u) = some u := by
  rw [runQueue_queueUpdate]
  rcases SessionUpdateQueue.queueUpdate_cases (queue_consistent es) (runState es).isActive u with
    ⟨ch, rest, -, -, eq⟩ | ⟨-, -, eq⟩ | ⟨-, -, eq⟩ <;> rw [eq]
  · left; simp [SessionUpdateQueue.written]
  · right; simp
  · right; simp

theorem not_lost_queueRequest (q : SessionUpdateQueue Update) (consistent : q.Consistent)
    (ch : Channel) (x : Update)
    (h : x ∈ q.written ∨ q.updates (getUpdateType x) = some x) :
    x ∈ (q.queueRequest ch).written ∨
      (q.queueRequest ch).updates (getUpdateType x) = some x := by
  rcases SessionUpdateQueue.queueRequest_cases consistent ch with
    ⟨t, rest, u, -, hu, eq⟩ | ⟨-, eq⟩ <;> rw [eq]
  · rcases h with sent | held
    · left
      simp only [SessionUpdateQueue.written, List.map_append] at sent ⊢
      exact List.mem_append_left _ sent
    · by_cases same : getUpdateType x = t
      · left
        have : u = x := by rw [← same, held] at hu; exact (Option.some.inj hu).symm
        simp [SessionUpdateQueue.written, this]
      · right
        exact (Function.update_of_ne same _ _).trans held
  · exact h

theorem written_pending_or_superseded (es : List (QueueEvent Update)) :
    ∀ x ∈ queuedUpdates es, x ∈ (runQueue es).written ∨
      (runQueue es).updates (getUpdateType x) = some x ∨ SupersededWhilePending es x := by
  induction es using List.reverseRecOn with
  | nil => simp [queuedUpdates]
  | append_singleton es e ih =>
    intro x hx
    rw [queuedUpdates_concat, List.mem_append] at hx
    rcases hx with old | new
    · rcases ih x old with sent | held | gone
      · cases e with
        | queueUpdate u => exact not_lost_queueUpdate es u x (Or.inl sent)
        | queueRequest ch =>
          rw [runQueue_queueRequest]
          exact (not_lost_queueRequest _ (queue_consistent es) ch x (Or.inl sent)).imp_right Or.inl
        | channelClosed ch => rw [runQueue_channelClosed]; exact Or.inl sent
        | closePendingRequests => rw [runQueue_closePendingRequests]; exact Or.inl sent
      · cases e with
        | queueUpdate u => exact not_lost_queueUpdate es u x (Or.inr held)
        | queueRequest ch =>
          rw [runQueue_queueRequest]
          exact (not_lost_queueRequest _ (queue_consistent es) ch x (Or.inr held)).imp_right Or.inl
        | channelClosed ch => rw [runQueue_channelClosed]; exact Or.inr (Or.inl held)
        | closePendingRequests =>
          rw [runQueue_closePendingRequests]; exact Or.inr (Or.inl held)
      · exact Or.inr (Or.inr (superseded_concat gone e))
    · cases e with
      | queueUpdate u =>
        have : x = u := by simpa [QueueEvent.queued] using new
        subst this
        exact (queued_now es x).imp_right Or.inl
      | queueRequest ch => simp [QueueEvent.queued] at new
      | channelClosed ch => simp [QueueEvent.queued] at new
      | closePendingRequests => simp [QueueEvent.queued] at new

theorem pendingFrom_concat {es : List (QueueEvent Update)} {k : Nat} {t : UpdateType}
    (h : PendingFrom es k t) (e : QueueEvent Update)
    (still : ((runQueue (es ++ [e])).updates t).isSome) : PendingFrom (es ++ [e]) k t := by
  intro j low high
  by_cases last : j = es.length + 1
  · simpa [last, List.take_of_length_le] using still
  · have : j ≤ es.length := by simp at high; omega
    rw [List.take_append_of_le_length this]
    exact h j low this

theorem becamePendingBefore_concat {es : List (QueueEvent Update)} {t t' : UpdateType}
    (h : BecamePendingBefore es t t') (e : QueueEvent Update)
    (still : ((runQueue (es ++ [e])).updates t).isSome) :
    BecamePendingBefore (es ++ [e]) t t' := by
  obtain ⟨k, bound, since, later⟩ := h
  refine ⟨k, by simp; omega, pendingFrom_concat since e still, ?_⟩
  intro all
  apply later
  intro j low high
  have := all j low (by simp; omega)
  rwa [List.take_append_of_le_length high] at this

theorem becamePendingBefore_new {es : List (QueueEvent Update)} {t t' : UpdateType}
    {e : QueueEvent Update} (held : ((runQueue es).updates t).isSome)
    (absent : (runQueue es).updates t' = none)
    (still : ((runQueue (es ++ [e])).updates t).isSome) :
    BecamePendingBefore (es ++ [e]) t t' := by
  refine ⟨es.length, by simp, ?_, ?_⟩
  · refine pendingFrom_concat ?_ e still
    intro j low high
    have : j = es.length := by omega
    simpa [this] using held
  · intro all
    have := all es.length (Nat.le_refl _) (by simp)
    simp [absent] at this

theorem types_in_pending_order (es : List (QueueEvent Update)) :
    (runQueue es).updateTypeQueue.Pairwise (BecamePendingBefore es) := by
  induction es using List.reverseRecOn with
  | nil => exact List.Pairwise.nil
  | append_singleton es e ih =>
    have consistent := queue_consistent es
    have keysAfter := (queue_consistent (es ++ [e])).keys
    -- types that stay queued keep their order
    have kept : ∀ types : List UpdateType, types.Sublist (runQueue es).updateTypeQueue →
        (∀ t ∈ types, ((runQueue (es ++ [e])).updates t).isSome) →
        types.Pairwise (BecamePendingBefore (es ++ [e])) := by
      intro types sub still
      refine List.Pairwise.imp_of_mem ?_ (ih.sublist sub)
      intro t t' ht _ h
      exact becamePendingBefore_concat h e (still t ht)
    cases e with
    | queueUpdate u =>
      have same := runQueue_queueUpdate es u
      rcases SessionUpdateQueue.queueUpdate_cases consistent (runState es).isActive u with
        ⟨ch, rest, -, -, eq⟩ | ⟨-, -, eq⟩ | ⟨-, absent, eq⟩
      · have types : (runQueue (es ++ [.queueUpdate u])).updateTypeQueue =
            (runQueue es).updateTypeQueue := by rw [same, eq]
        rw [types]
        exact kept _ (List.Sublist.refl _) fun t ht => (keysAfter t).mp (types ▸ ht)
      · have types : (runQueue (es ++ [.queueUpdate u])).updateTypeQueue =
            (runQueue es).updateTypeQueue := by rw [same, eq]
        rw [types]
        exact kept _ (List.Sublist.refl _) fun t ht => (keysAfter t).mp (types ▸ ht)
      · have types : (runQueue (es ++ [.queueUpdate u])).updateTypeQueue =
            (runQueue es).updateTypeQueue ++ [getUpdateType u] := by rw [same, eq]
        rw [types, List.pairwise_append]
        refine ⟨kept _ (List.Sublist.refl _) fun t ht => (keysAfter t).mp ?_,
          List.pairwise_singleton _ _, ?_⟩
        · rw [types]; exact List.mem_append_left _ ht
        · intro t ht t' ht'
          have : t' = getUpdateType u := by simpa using ht'
          subst this
          refine becamePendingBefore_new ((consistent.keys t).mp ht) absent ((keysAfter t).mp ?_)
          rw [types]; exact List.mem_append_left _ ht
    | queueRequest ch =>
      have same := runQueue_queueRequest es ch
      rcases SessionUpdateQueue.queueRequest_cases consistent ch with
        ⟨t, rest, u, queued, -, eq⟩ | ⟨queued, eq⟩
      · have types : (runQueue (es ++ [.queueRequest ch])).updateTypeQueue = rest := by
          rw [same, eq]
        rw [types]
        refine kept rest ?_ fun t ht => (keysAfter t).mp (types ▸ ht)
        rw [queued]; exact List.sublist_cons_self _ _
      · have types : (runQueue (es ++ [.queueRequest ch])).updateTypeQueue = [] := by
          rw [same, eq, queued]
        rw [types]
        exact List.Pairwise.nil
    | channelClosed ch =>
      rw [runQueue_channelClosed] at keysAfter kept ⊢
      exact kept _ (List.Sublist.refl _) fun t ht => (keysAfter t).mp ht
    | closePendingRequests =>
      rw [runQueue_closePendingRequests] at keysAfter kept ⊢
      exact kept _ (List.Sublist.refl _) fun t ht => (keysAfter t).mp ht

theorem request_gets_oldest_pending (es : List (QueueEvent Update)) (ch : Channel)
    (waiting : ∃ t, ((runQueue es).updates t).isSome) :
    ∃ t u, (runQueue es).updates t = some u ∧
      (runQueue (es ++ [.queueRequest ch])).sent = (runQueue es).sent ++ [(ch, u)] ∧
      ∀ t', t' ≠ t → ((runQueue es).updates t').isSome → BecamePendingBefore es t t' := by
  have consistent := queue_consistent es
  rw [runQueue_queueRequest]
  rcases SessionUpdateQueue.queueRequest_cases consistent ch with
    ⟨t, rest, u, queued, hu, eq⟩ | ⟨queued, -⟩
  · refine ⟨t, u, hu, by rw [eq], ?_⟩
    intro t' other held
    have order := types_in_pending_order es
    rw [queued] at order
    have member : t' ∈ t :: rest := queued ▸ (consistent.keys t').mpr held
    exact (List.pairwise_cons.mp order).1 t' ((List.mem_cons.mp member).resolve_left other)
  · obtain ⟨t, held⟩ := waiting
    simp [consistent.no_updates queued t] at held

end History

section Numbering
variable {Update Tagged : Type}

def QueueEvent.map (f : Tagged → Update) : QueueEvent Tagged → QueueEvent Update
  | .queueUpdate u => .queueUpdate (f u)
  | .queueRequest ch => .queueRequest ch
  | .channelClosed ch => .channelClosed ch
  | .closePendingRequests => .closePendingRequests

def SessionUpdateQueue.map (f : Tagged → Update) (q : SessionUpdateQueue Tagged) :
    SessionUpdateQueue Update :=
  { channelQueue := q.channelQueue
    updates := fun t => (q.updates t).map f
    updateTypeQueue := q.updateTypeQueue
    sent := q.sent.map fun p => (p.1, f p.2) }

def QueueState.map (f : Tagged → Update) (s : QueueState Tagged) : QueueState Update :=
  { queue := s.queue.map f, closed := s.closed }

/-- Tags each queued update with the number of updates queued before it. -/
def number : Nat → List (QueueEvent Update) → List (QueueEvent (Nat × Update))
  | _, [] => []
  | n, .queueUpdate u :: es => .queueUpdate (n, u) :: number (n + 1) es
  | n, .queueRequest ch :: es => .queueRequest ch :: number n es
  | n, .channelClosed ch :: es => .channelClosed ch :: number n es
  | n, .closePendingRequests :: es => .closePendingRequests :: number n es

theorem number_erased (n : Nat) (es : List (QueueEvent Update)) :
    (number n es).map (QueueEvent.map Prod.snd) = es := by
  induction es generalizing n with
  | nil => rfl
  | cons e es ih => cases e <;> simp [number, QueueEvent.map, ih]

theorem number_tags (n : Nat) (es : List (QueueEvent Update)) :
    (∀ x ∈ queuedUpdates (number n es), n ≤ x.1) ∧
      (queuedUpdates (number n es)).Pairwise (fun x y => x.1 < y.1) := by
  induction es generalizing n with
  | nil => simp [number, queuedUpdates]
  | cons e es ih =>
    cases e with
    | queueUpdate u =>
      obtain ⟨low, sorted⟩ := ih (n + 1)
      have eq : queuedUpdates (number n (.queueUpdate u :: es)) =
          (n, u) :: queuedUpdates (number (n + 1) es) := rfl
      rw [eq]
      refine ⟨?_, List.pairwise_cons.mpr ⟨fun x hx => low x hx, sorted⟩⟩
      intro x hx
      rcases List.mem_cons.mp hx with same | later
      · rw [same]
      · exact Nat.le_of_succ_le (low x later)
    | queueRequest ch => exact ih n
    | channelClosed ch => exact ih n
    | closePendingRequests => exact ih n

theorem number_nodup (es : List (QueueEvent Update)) : (queuedUpdates (number 0 es)).Nodup :=
  (number_tags 0 es).2.imp fun {x y} less same => by rw [same] at less; exact Nat.lt_irrefl _ less

theorem map_update (f : Tagged → Update) (updates : UpdateType → Option Tagged) (t : UpdateType)
    (v : Option Tagged) : (fun s => (Function.update updates t v s).map f) =
      Function.update (fun s => (updates s).map f) t (v.map f) := by
  funext s
  by_cases same : s = t
  · subst same; simp
  · simp [same]

theorem queueRequest_map (f : Tagged → Update) (ch : Channel) (q : SessionUpdateQueue Tagged) :
    (q.queueRequest ch).map f = (q.map f).queueRequest ch := by
  cases queued : q.updateTypeQueue with
  | nil => simp [SessionUpdateQueue.queueRequest, SessionUpdateQueue.map, queued]
  | cons t rest =>
    cases held : q.updates t <;>
      simp [SessionUpdateQueue.queueRequest, SessionUpdateQueue.map,
        SessionUpdateQueue.sendResponse, queued, held, map_update]

variable [HasUpdateType Update]

instance : HasUpdateType (Nat × Update) := ⟨fun u => getUpdateType u.2⟩

theorem queueUpdate_map [HasUpdateType Tagged] (f : Tagged → Update)
    (typed : ∀ u, getUpdateType (f u) = getUpdateType u) (isActive : Channel → Bool)
    (u : Tagged) (q : SessionUpdateQueue Tagged) :
    (q.queueUpdate isActive u).map f = (q.map f).queueUpdate isActive (f u) := by
  cases waiting : q.channelQueue.dropWhile (fun c => !isActive c) with
  | cons ch rest =>
    simp [SessionUpdateQueue.queueUpdate, SessionUpdateQueue.map,
      SessionUpdateQueue.updateQueueSize, SessionUpdateQueue.sendResponse, waiting]
  | nil =>
    cases held : q.updates (getUpdateType u) <;>
      simp [SessionUpdateQueue.queueUpdate, SessionUpdateQueue.map,
        SessionUpdateQueue.updateQueueSize, waiting, held, map_update, typed]

theorem step_map [HasUpdateType Tagged] (f : Tagged → Update)
    (typed : ∀ u, getUpdateType (f u) = getUpdateType u) (s : QueueState Tagged)
    (e : QueueEvent Tagged) : (s.step e).map f = (s.map f).step (e.map f) := by
  cases e with
  | queueUpdate u =>
    have := queueUpdate_map f typed s.isActive u s.queue
    simp only [QueueState.step, QueueState.map, QueueEvent.map, this]
    rfl
  | queueRequest ch =>
    simp only [QueueState.step, QueueState.map, QueueEvent.map, queueRequest_map]
  | channelClosed ch => rfl
  | closePendingRequests => rfl

theorem runState_map [HasUpdateType Tagged] (f : Tagged → Update)
    (typed : ∀ u, getUpdateType (f u) = getUpdateType u) (es : List (QueueEvent Tagged)) :
    (runState es).map f = runState (es.map (QueueEvent.map f)) := by
  induction es using List.reverseRecOn with
  | nil => rfl
  | append_singleton es e ih =>
    simp only [runState, run_concat, List.map_append, List.map_cons, List.map_nil] at ih ⊢
    rw [step_map f typed, ih]

theorem run_number (es : List (QueueEvent Update)) :
    (runQueue (number 0 es)).map Prod.snd = runQueue es := by
  have h := runState_map Prod.snd (fun _ => rfl) (number 0 es)
  rw [number_erased] at h
  exact congrArg QueueState.queue h

/-- Every queued update of a run is accounted for. With each queued update
    named by its position: the written ones of each type are a subsequence of
    the queued ones, one that is not written is pending or was replaced while
    pending, the latest of each type is written or pending, and requests are
    served in the order in which the types became pending. -/
theorem updates_neither_lost_nor_reordered (es : List (QueueEvent Update)) :
    (runQueue (number 0 es)).map Prod.snd = runQueue es ∧
    (queuedUpdates (number 0 es)).Nodup ∧
    (∀ t, (ofType t (runQueue (number 0 es)).written).Sublist
      (ofType t (queuedUpdates (number 0 es)))) ∧
    (∀ x ∈ queuedUpdates (number 0 es), x ∈ (runQueue (number 0 es)).written ∨
      (runQueue (number 0 es)).updates (getUpdateType x) = some x ∨
      SupersededWhilePending (number 0 es) x) ∧
    (∀ t x, (ofType t (queuedUpdates (number 0 es))).getLast? = some x →
      x ∈ (runQueue (number 0 es)).written ∨ (runQueue (number 0 es)).updates t = some x) ∧
    (∀ ch, (∃ t, ((runQueue (number 0 es)).updates t).isSome) →
      ∃ t u, (runQueue (number 0 es)).updates t = some u ∧
        (runQueue (number 0 es ++ [.queueRequest ch])).sent =
          (runQueue (number 0 es)).sent ++ [(ch, u)] ∧
        ∀ t', t' ≠ t → ((runQueue (number 0 es)).updates t').isSome →
          BecamePendingBefore (number 0 es) t t') := by
  refine ⟨run_number es, number_nodup es, ?_, written_pending_or_superseded _, ?_,
    request_gets_oldest_pending _⟩
  · intro t
    exact (List.sublist_append_left _ _).trans (inStep_runQueue (number 0 es) t).1
  · intro t x last
    rw [← (inStep_runQueue (number 0 es) t).2, List.getLast?_append] at last
    cases held : (runQueue (number 0 es)).updates t with
    | some u => right; simpa [held] using last
    | none =>
      left
      have : x ∈ ofType t (runQueue (number 0 es)).written :=
        List.mem_of_getLast? (by simpa [held] using last)
      exact List.mem_of_mem_filter this

end Numbering
end MusicCloud

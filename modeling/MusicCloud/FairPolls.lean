import MusicCloud.UpdateDelivery
import MusicCloud.Songs

/-!
Which of the parked requests are served. The queue holds channels, and one channel
may carry several requests, so the run is repeated with the number of each request
in the place of its channel. Reading the channels for the numbers gives back the
run itself; the numbers say who has waited longest.
-/
namespace MusicCloud
open Runs

namespace SessionUpdateQueue
variable {Update : Type}

def mapChannels (f : Channel → Channel) (q : SessionUpdateQueue Update) :
    SessionUpdateQueue Update :=
  { q with
    channelQueue := q.channelQueue.map f
    sent := q.sent.map fun response => (f response.1, response.2) }

def accepted (q : SessionUpdateQueue Update) : List Channel := q.sent.map Prod.fst ++ q.channelQueue

section Names
variable (f : Channel → Channel) (q : SessionUpdateQueue Update)

theorem mapChannels_queueRequest (ch : Channel) :
    (q.mapChannels f).queueRequest (f ch) = (q.queueRequest ch).mapChannels f := by
  obtain ⟨channelQueue, updates, updateTypeQueue, sent⟩ := q
  cases updateTypeQueue with
  | nil => simp [queueRequest, mapChannels]
  | cons t rest =>
    cases pending : updates t with
    | none => simp [queueRequest, mapChannels, pending]
    | some u => simp [queueRequest, mapChannels, pending, sendResponse]

theorem mapChannels_queueUpdate [HasUpdateType Update] (isActive : Channel → Bool) (u : Update) :
    (q.mapChannels f).queueUpdate isActive u =
      (q.queueUpdate (fun ch => isActive (f ch)) u).mapChannels f := by
  have waiting : (q.channelQueue.map f).dropWhile (fun ch => !isActive ch) =
      (q.channelQueue.dropWhile fun ch => !isActive (f ch)).map f := List.dropWhile_map ..
  unfold queueUpdate updateQueueSize
  dsimp only [mapChannels]
  rw [waiting]
  cases q.channelQueue.dropWhile (fun ch => !isActive (f ch)) with
  | nil =>
    by_cases pending : (q.updates (getUpdateType u)).isSome = true
    · simp [pending]
    · simp [pending]
  | cons first rest => simp [sendResponse]

end Names

section Accepted
variable {q : SessionUpdateQueue Update}

theorem accepted_queueRequest (ch : Channel) :
    (q.queueRequest ch).accepted.Perm (q.accepted ++ [ch]) := by
  have parked : ((q.sent.map Prod.fst ++ (q.channelQueue ++ [ch])).Perm (q.accepted ++ [ch])) := by
    unfold accepted
    rw [List.append_assoc]
  unfold queueRequest
  split
  · dsimp only
    split
    · -- answered at once, before those that wait
      unfold accepted sendResponse
      simp only [List.map_append, List.map_cons, List.map_nil, List.append_assoc]
      exact List.Perm.append_left _ List.perm_append_comm
    · exact parked
  · exact parked

theorem queueUpdate_writes [HasUpdateType Update] (isActive : Channel → Bool) (u : Update) :
    (∃ first rest, q.channelQueue.dropWhile (fun ch => !isActive ch) = first :: rest ∧
      (q.queueUpdate isActive u).channelQueue = rest ∧
      (q.queueUpdate isActive u).sent = q.sent ++ [(first, u)]) ∨
    (q.channelQueue.dropWhile (fun ch => !isActive ch) = [] ∧
      (q.queueUpdate isActive u).channelQueue = [] ∧
      (q.queueUpdate isActive u).sent = q.sent) := by
  unfold queueUpdate updateQueueSize
  cases waiting : q.channelQueue.dropWhile (fun ch => !isActive ch) with
  | cons first rest => exact Or.inl ⟨first, rest, rfl, rfl, rfl⟩
  | nil =>
    dsimp only
    by_cases pending : (q.updates (getUpdateType u)).isSome = true
    · rw [if_pos pending]
      exact Or.inr ⟨rfl, rfl, rfl⟩
    · rw [if_neg pending]
      exact Or.inr ⟨rfl, rfl, rfl⟩

theorem accepted_queueUpdate [HasUpdateType Update] (isActive : Channel → Bool) (u : Update) :
    (q.queueUpdate isActive u).accepted.Sublist q.accepted := by
  have suffix := List.dropWhile_sublist (fun ch => !isActive ch) (l := q.channelQueue)
  unfold accepted
  rcases queueUpdate_writes (q := q) isActive u with
    ⟨first, rest, waiting, queue, sent⟩ | ⟨waiting, queue, sent⟩
  · rw [waiting] at suffix
    rw [queue, sent, List.map_append, List.append_assoc]
    exact suffix.append_left _
  · rw [waiting] at suffix
    rw [queue, sent]
    exact suffix.append_left _

theorem channelQueue_queueUpdate [HasUpdateType Update] (isActive : Channel → Bool) (u : Update) :
    (q.queueUpdate isActive u).channelQueue.Sublist q.channelQueue := by
  have suffix := List.dropWhile_sublist (fun ch => !isActive ch) (l := q.channelQueue)
  rcases queueUpdate_writes (q := q) isActive u with
    ⟨first, rest, waiting, queue, -⟩ | ⟨waiting, queue, -⟩
  · rw [waiting] at suffix
    rw [queue]
    exact (List.sublist_cons_self first rest).trans suffix
  · rw [waiting] at suffix
    rw [queue]
    exact suffix

theorem channelQueue_queueRequest (ch : Channel) :
    (q.queueRequest ch).channelQueue = q.channelQueue ∨
      (q.queueRequest ch).channelQueue = q.channelQueue ++ [ch] := by
  unfold queueRequest
  split
  · dsimp only
    split
    · exact Or.inl rfl
    · exact Or.inr rfl
  · exact Or.inr rfl

end Accepted
end SessionUpdateQueue

section Calls
variable {Update : Type} [HasUpdateType Update]

def channelOf (es : List (QueueEvent Update)) (call : Nat) : Channel :=
  match es[call]? with
  | some (.queueRequest ch) => ch
  | _ => 0

/-- A step of the queue with calls in the place of channels. -/
def callStep (channel : Nat → Channel) (s : QueueState Update) :
    QueueEvent Update × Nat → QueueState Update
  | (.queueUpdate update, _) =>
    { s with queue := s.queue.queueUpdate (fun call => s.isActive (channel call)) update }
  | (.queueRequest _, call) => { s with queue := s.queue.queueRequest call }
  | (.channelClosed ch, _) => { s with closed := ch :: s.closed }
  | (.closePendingRequests, _) =>
    { queue := s.queue.closePendingRequests.1
      closed := s.queue.closePendingRequests.2.map channel ++ s.closed }

def runCalls (channel : Nat → Channel) (es : List (QueueEvent Update)) : QueueState Update :=
  run (callStep channel) QueueState.initial es.zipIdx

theorem runCalls_concat (channel : Nat → Channel) (es : List (QueueEvent Update))
    (e : QueueEvent Update) :
    runCalls channel (es ++ [e]) = callStep channel (runCalls channel es) (e, es.length) := by
  unfold runCalls
  rw [List.zipIdx_append, run_append]
  simp

def erased (channel : Nat → Channel) (s : QueueState Update) : QueueState Update :=
  { s with queue := s.queue.mapChannels channel }

theorem erased_callStep (channel : Nat → Channel) (s : QueueState Update) (e : QueueEvent Update)
    (call : Nat) (named : ∀ ch, e = .queueRequest ch → channel call = ch) :
    erased channel (callStep channel s (e, call)) = (erased channel s).step e := by
  cases e with
  | queueUpdate u =>
    unfold erased callStep QueueState.step
    dsimp only
    rw [SessionUpdateQueue.mapChannels_queueUpdate]
    rfl
  | queueRequest ch =>
    have same := named ch rfl
    subst same
    unfold erased callStep QueueState.step
    dsimp only
    rw [SessionUpdateQueue.mapChannels_queueRequest]
  | channelClosed ch => rfl
  | closePendingRequests => rfl

theorem erased_runCalls (channel : Nat → Channel) (es : List (QueueEvent Update))
    (named : ∀ call ch, es[call]? = some (.queueRequest ch) → channel call = ch) :
    erased channel (runCalls channel es) = runState es := by
  induction es using List.reverseRecOn with
  | nil => rfl
  | append_singleton es e ih =>
    have before := ih fun call ch found => named call ch (by
      rw [List.getElem?_append_left (List.getElem?_eq_some_iff.mp found).1]
      exact found)
    have last : ∀ ch, e = .queueRequest ch → channel es.length = ch := by
      rintro ch rfl
      exact named es.length ch (by simp)
    rw [runCalls_concat, erased_callStep channel _ e es.length last, before]
    simp [runState, run_concat]

/-- No call is taken twice, and those that wait are in the order of their calls. -/
structure CallsInOrder (es : List (QueueEvent Update)) (q : SessionUpdateQueue Update) : Prop where
  nodup : q.accepted.Nodup
  calls : ∀ call ∈ q.accepted, ∃ ch, es[call]? = some (.queueRequest ch)
  sorted : q.channelQueue.Pairwise (· < ·)

omit [HasUpdateType Update] in
theorem CallsInOrder.bound {es : List (QueueEvent Update)} {q : SessionUpdateQueue Update}
    (order : CallsInOrder es q) : ∀ call ∈ q.accepted, call < es.length := by
  intro call accepted
  obtain ⟨ch, found⟩ := order.calls call accepted
  exact (List.getElem?_eq_some_iff.mp found).1

omit [HasUpdateType Update] in
theorem CallsInOrder.fewer {es : List (QueueEvent Update)} {q r : SessionUpdateQueue Update}
    (order : CallsInOrder es q) (e : QueueEvent Update) (accepted : r.accepted.Sublist q.accepted)
    (waiting : r.channelQueue.Sublist q.channelQueue) : CallsInOrder (es ++ [e]) r := by
  refine ⟨order.nodup.sublist accepted, ?_, order.sorted.sublist waiting⟩
  intro call taken
  obtain ⟨ch, found⟩ := order.calls call (accepted.subset taken)
  refine ⟨ch, ?_⟩
  rw [List.getElem?_append_left (List.getElem?_eq_some_iff.mp found).1]
  exact found

omit [HasUpdateType Update] in
theorem CallsInOrder.queueRequest {es : List (QueueEvent Update)} {q : SessionUpdateQueue Update}
    (order : CallsInOrder es q) (ch : Channel) :
    CallsInOrder (es ++ [.queueRequest ch]) (q.queueRequest es.length) := by
  have perm := SessionUpdateQueue.accepted_queueRequest (q := q) es.length
  have fresh : es.length ∉ q.accepted := by
    intro taken
    exact absurd (order.bound es.length taken) (lt_irrefl _)
  refine ⟨?_, ?_, ?_⟩
  · rw [perm.nodup_iff]
    exact List.Nodup.append order.nodup (List.nodup_singleton _) (by simpa using fresh)
  · intro call taken
    rcases List.mem_append.mp (perm.mem_iff.mp taken) with old | new
    · obtain ⟨other, found⟩ := order.calls call old
      refine ⟨other, ?_⟩
      rw [List.getElem?_append_left (List.getElem?_eq_some_iff.mp found).1]
      exact found
    · rw [List.mem_singleton.mp new]
      exact ⟨ch, by simp⟩
  · rcases SessionUpdateQueue.channelQueue_queueRequest (q := q) es.length with same | parked
    · rw [same]
      exact order.sorted
    · rw [parked, List.pairwise_append]
      refine ⟨order.sorted, List.pairwise_singleton _ _, ?_⟩
      intro call waiting last new
      rw [List.mem_singleton.mp new]
      exact order.bound call (List.mem_append_right _ waiting)

theorem callsInOrder_runCalls (channel : Nat → Channel) (es : List (QueueEvent Update)) :
    CallsInOrder es (runCalls channel es).queue := by
  induction es using List.reverseRecOn with
  | nil => exact ⟨List.nodup_nil, fun call no => (by cases no), List.Pairwise.nil⟩
  | append_singleton es e ih =>
    rw [runCalls_concat]
    cases e with
    | queueUpdate u =>
      exact ih.fewer _ (SessionUpdateQueue.accepted_queueUpdate _ u)
        (SessionUpdateQueue.channelQueue_queueUpdate _ u)
    | queueRequest ch => exact ih.queueRequest ch
    | channelClosed ch => exact ih.fewer _ (List.Sublist.refl _) (List.Sublist.refl _)
    | closePendingRequests =>
      exact ih.fewer _ ((List.nil_sublist _).append_left _) (List.nil_sublist _)

/-- What one event may do to the calls that wait. -/
structure FairStep (channel : Nat → Channel) (s t : QueueState Update) (e : QueueEvent Update) :
    Prop where
  earliest : ∀ u, e = .queueUpdate u → t.queue.sent = s.queue.sent ∨
    ∃ call ∈ s.queue.channelQueue, t.queue.sent = s.queue.sent ++ [(call, u)] ∧
      s.isActive (channel call) = true ∧
      ∀ other ∈ s.queue.channelQueue, s.isActive (channel other) = true → call ≤ other
  kept : ∀ call ∈ s.queue.channelQueue, s.isActive (channel call) = true →
    call ∈ t.queue.channelQueue ∨ (∃ u, t.queue.sent = s.queue.sent ++ [(call, u)]) ∨
      e = .closePendingRequests ∧ channel call ∈ t.closed

theorem dropWhile_active {isActive : Channel → Bool} {xs rest : List Channel} {first : Channel}
    (waiting : xs.dropWhile (fun ch => !isActive ch) = first :: rest) :
    isActive first = true ∧ ∀ x ∈ xs, isActive x = true → x = first ∨ x ∈ rest := by
  constructor
  · have head := List.head?_dropWhile_not (fun ch => !isActive ch) xs
    rw [waiting] at head
    simpa using head
  · intro x listed active
    rw [← List.takeWhile_append_dropWhile (p := fun ch => !isActive ch) (l := xs), waiting] at listed
    rcases List.mem_append.mp listed with dead | alive
    · have closed := List.mem_takeWhile_imp dead
      simp [active] at closed
    · exact List.mem_cons.mp alive

theorem fairStep_callStep (channel : Nat → Channel) {es : List (QueueEvent Update)}
    {s : QueueState Update} (order : CallsInOrder es s.queue) (e : QueueEvent Update) (call : Nat) :
    FairStep channel s (callStep channel s (e, call)) e := by
  cases e with
  | queueUpdate u =>
    rcases SessionUpdateQueue.queueUpdate_writes (q := s.queue)
      (fun call => s.isActive (channel call)) u with
      ⟨first, rest, waiting, queue, sent⟩ | ⟨waiting, queue, sent⟩
    · obtain ⟨active, others⟩ := dropWhile_active waiting
      have suffix := List.dropWhile_sublist (fun call => !s.isActive (channel call))
        (l := s.queue.channelQueue)
      rw [waiting] at suffix
      constructor
      · rintro v ⟨⟩
        refine Or.inr ⟨first, suffix.subset List.mem_cons_self, sent, active, ?_⟩
        intro other listed alive
        rcases others other listed alive with rfl | later
        · exact le_refl _
        · have sorted := order.sorted.sublist suffix
          exact le_of_lt ((List.pairwise_cons.mp sorted).1 other later)
      · intro other listed alive
        rcases others other listed alive with rfl | later
        · exact Or.inr (Or.inl ⟨u, sent⟩)
        · left
          show other ∈ (s.queue.queueUpdate _ u).channelQueue
          rw [queue]
          exact later
    · constructor
      · intro v _
        exact Or.inl sent
      · intro other listed alive
        have dead := List.dropWhile_eq_nil_iff.mp waiting other listed
        simp [alive] at dead
  | queueRequest ch =>
    constructor
    · rintro u ⟨⟩
    · intro other listed _
      left
      show other ∈ (s.queue.queueRequest call).channelQueue
      rcases SessionUpdateQueue.channelQueue_queueRequest (q := s.queue) call with same | parked
      · rw [same]
        exact listed
      · rw [parked]
        exact List.mem_append_left _ listed
  | channelClosed ch =>
    constructor
    · rintro u ⟨⟩
    · intro other listed _
      exact Or.inl listed
  | closePendingRequests =>
    constructor
    · rintro u ⟨⟩
    · intro other listed _
      refine Or.inr (Or.inr ⟨rfl, ?_⟩)
      exact List.mem_append_left _ (List.mem_map_of_mem listed)

/-- For every sequence of events on an empty queue: the numbered run is the run of the
    queue, no call of `queueRequest` is answered twice, and each event is fair: an
    update goes to the earliest call whose channel is still active, and such a call
    stops waiting only when it is answered or `closePendingRequests` closes it. -/
theorem parked_requests_served_fairly (es : List (QueueEvent Update)) :
    erased (channelOf es) (runCalls (channelOf es) es) = runState es ∧
    ((runCalls (channelOf es) es).queue.sent.map Prod.fst).Nodup ∧
    (∀ response ∈ (runCalls (channelOf es) es).queue.sent,
      ∃ ch, es[response.1]? = some (.queueRequest ch)) ∧
    ∀ before e after, es = before ++ e :: after →
      erased (channelOf es) (runCalls (channelOf es) before) = runState before ∧
      FairStep (channelOf es) (runCalls (channelOf es) before)
        (runCalls (channelOf es) (before ++ [e])) e := by
  have named : ∀ call ch, es[call]? = some (.queueRequest ch) → channelOf es call = ch := by
    intro call ch found
    unfold channelOf
    rw [found]
  have order := callsInOrder_runCalls (channelOf es) es
  refine ⟨erased_runCalls _ es named, ?_, ?_, ?_⟩
  · exact order.nodup.sublist (List.sublist_append_left _ _)
  · intro response sent
    exact order.calls _ (List.mem_append_left _ (List.mem_map_of_mem sent))
  · intro before e after split
    constructor
    · apply erased_runCalls
      intro call ch found
      apply named
      rw [split, List.getElem?_append_left (List.getElem?_eq_some_iff.mp found).1]
      exact found
    · rw [runCalls_concat]
      exact fairStep_callStep _ (callsInOrder_runCalls _ before) e before.length

end Calls

def waitingEvents : List (QueueEvent SessionUpdate) :=
  [.queueRequest 5, .queueRequest 6, .channelClosed 5]

theorem second_request_served :
    (runState (waitingEvents ++ [.queueUpdate (.votes [])])).queue.sent = [(6, .votes [])] ∧
    FairStep (channelOf (waitingEvents ++ [.queueUpdate (.votes [])]))
      (runCalls (channelOf (waitingEvents ++ [.queueUpdate (.votes [])])) waitingEvents)
      (runCalls (channelOf (waitingEvents ++ [.queueUpdate (.votes [])]))
        (waitingEvents ++ [.queueUpdate (.votes [])])) (.queueUpdate (.votes [])) :=
  ⟨rfl, ((parked_requests_served_fairly (waitingEvents ++ [.queueUpdate (.votes [])])).2.2.2
    waitingEvents (.queueUpdate (.votes [])) [] rfl).2⟩

end MusicCloud

import MusicCloud.UpdateDelivery

/-!
A client that keeps at most one long poll open. `unread` is what the queue of
its session still has for it, one type at a time, in the order in which it will
arrive: the answer to the poll, when that has been written, and the pending update.
-/
namespace MusicCloud
namespace SessionUpdateQueue
variable {Update : Type}

def answer (poll : Option Channel) (q : SessionUpdateQueue Update) : Option Update :=
  poll.bind fun ch => q.sent.lookup ch

def Unused (ch : Channel) (q : SessionUpdateQueue Update) : Prop :=
  ch ∉ q.channelQueue ∧ q.sent.lookup ch = none

instance (ch : Channel) (q : SessionUpdateQueue Update) : Decidable (q.Unused ch) :=
  inferInstanceAs (Decidable (_ ∧ _))

def unread [HasUpdateType Update] (poll : Option Channel) (t : UpdateType)
    (q : SessionUpdateQueue Update) : List Update :=
  ofType t (q.answer poll).toList ++ (q.updates t).toList

/-- The open channels of the queue are the poll, as long as it is not answered. -/
structure Polled [HasUpdateType Update] (isActive : Channel → Bool) (poll : Option Channel)
    (q : SessionUpdateQueue Update) : Prop where
  consistent : q.Consistent
  nodup : q.channelQueue.Nodup
  own : ∀ ch ∈ q.channelQueue, isActive ch = true → poll = some ch ∧ q.answer poll = none
  active : ∀ ch, poll = some ch → isActive ch = true
  waits : ∀ ch, poll = some ch → q.answer poll = none → ch ∈ q.channelQueue

section Polling
variable [HasUpdateType Update] {isActive : Channel → Bool} {poll : Option Channel}
  {q : SessionUpdateQueue Update}

theorem polled_empty : (empty : SessionUpdateQueue Update).Polled isActive none := by
  constructor
  · exact consistent_empty
  · exact List.nodup_nil
  · intro ch none
    cases none
  · intro ch no
    cases no
  · intro ch no
    cases no

theorem Polled.queueUpdate_cases (h : q.Polled isActive poll) (u : Update) :
    (∃ ch rest, poll = some ch ∧ q.answer poll = none ∧ q.updateTypeQueue = [] ∧ ch ∉ rest ∧
      rest.Sublist q.channelQueue ∧
      q.queueUpdate isActive u = { q with channelQueue := rest, sent := q.sent ++ [(ch, u)] }) ∨
    ((∀ ch, poll = some ch → q.answer poll ≠ none) ∧
      (q.queueUpdate isActive u).sent = q.sent ∧ (q.queueUpdate isActive u).channelQueue = [] ∧
      (q.queueUpdate isActive u).updates =
        Function.update q.updates (getUpdateType u) (some u)) := by
  have unanswered : q.channelQueue.dropWhile (fun c => !isActive c) = [] →
      ∀ ch, poll = some ch → q.answer poll ≠ none := by
    intro closed ch polls none
    have listed := h.waits ch polls none
    have shut := List.dropWhile_eq_nil_iff.mp closed ch listed
    simp [h.active ch polls] at shut
  rcases SessionUpdateQueue.queueUpdate_cases h.consistent isActive u with
    ⟨ch, rest, waiting, none, eq⟩ | ⟨closed, -, eq⟩ | ⟨closed, -, eq⟩
  · left
    have suffix := List.dropWhile_suffix (l := q.channelQueue) (fun c => !isActive c)
    rw [waiting] at suffix
    have active : isActive ch = true := by
      have some : q.channelQueue.dropWhile (fun c => !isActive c) ≠ [] := by simp [waiting]
      have head := List.head_dropWhile_not (fun c => !isActive c) some
      simpa [waiting] using head
    obtain ⟨polls, unanswered⟩ := h.own ch (suffix.subset List.mem_cons_self) active
    have nodup := h.nodup.sublist suffix.sublist
    exact ⟨ch, rest, polls, unanswered, none, (List.nodup_cons.mp nodup).1,
      (List.sublist_cons_self ch rest).trans suffix.sublist, eq⟩
  · right
    rw [eq]
    exact ⟨unanswered closed, rfl, rfl, rfl⟩
  · right
    rw [eq]
    exact ⟨unanswered closed, rfl, rfl, rfl⟩

omit [HasUpdateType Update] in
theorem answer_written {ch : Channel} (unanswered : q.answer (some ch) = none)
    (rest : List Channel) (u : Update) :
    ({ q with channelQueue := rest, sent := q.sent ++ [(ch, u)] } :
      SessionUpdateQueue Update).answer (some ch) = some u := by
  have before : q.sent.lookup ch = none := unanswered
  unfold answer
  dsimp only [Option.bind_some]
  rw [List.lookup_append, before]
  simp

theorem Polled.queueUpdate (h : q.Polled isActive poll) (u : Update) :
    (q.queueUpdate isActive u).Polled isActive poll := by
  have consistent := h.consistent.queueUpdate isActive u
  rcases h.queueUpdate_cases u with
    ⟨ch, rest, rfl, unanswered, -, fresh, sub, eq⟩ | ⟨answered, sent, channels, -⟩
  · rw [eq] at consistent ⊢
    have written := answer_written unanswered rest u
    refine ⟨consistent, h.nodup.sublist sub, ?_, h.active, ?_⟩
    · intro other listed active
      obtain ⟨same, -⟩ := h.own other (sub.subset listed) active
      cases same
      exact absurd listed fresh
    · intro other _ none
      rw [written] at none
      cases none
  · have same : (q.queueUpdate isActive u).answer poll = q.answer poll := by
      unfold answer
      rw [sent]
    refine ⟨consistent, ?_, ?_, h.active, ?_⟩
    · rw [channels]
      exact List.nodup_nil
    · intro ch listed
      rw [channels] at listed
      cases listed
    · intro ch polls none
      rw [same] at none
      exact absurd none (answered ch polls)

/-- What is unread grows at the end; the last update may be replaced while it is
    pending. -/
theorem Polled.unread_queueUpdate (h : q.Polled isActive poll) (u : Update) :
    ∃ older, (q.queueUpdate isActive u).unread poll (getUpdateType u) = older ++ [u] ∧
      (q.unread poll (getUpdateType u) = older ∨
        ∃ old, q.updates (getUpdateType u) = some old ∧
          q.unread poll (getUpdateType u) = older ++ [old]) := by
  rcases h.queueUpdate_cases u with
    ⟨ch, rest, rfl, unanswered, none, -, -, eq⟩ | ⟨-, sent, -, updates⟩
  · have absent := h.consistent.no_updates none (getUpdateType u)
    have written := answer_written unanswered rest u
    refine ⟨[], ?_, Or.inl ?_⟩
    · rw [eq]
      unfold unread
      rw [written]
      simp [absent, ofType]
    · unfold unread
      simp [unanswered, absent, ofType]
  · have same : (q.queueUpdate isActive u).answer poll = q.answer poll := by
      unfold answer
      rw [sent]
    refine ⟨ofType (getUpdateType u) (q.answer poll).toList, ?_, ?_⟩
    · unfold unread
      rw [same, updates]
      simp
    · unfold unread
      cases old : q.updates (getUpdateType u) with
      | none => exact Or.inl (by simp)
      | some before => exact Or.inr ⟨before, rfl, by simp⟩

theorem Polled.unread_other (h : q.Polled isActive poll) (u : Update) {t : UpdateType}
    (other : t ≠ getUpdateType u) :
    (q.queueUpdate isActive u).unread poll t = q.unread poll t := by
  rcases h.queueUpdate_cases u with
    ⟨ch, rest, rfl, unanswered, none, -, -, eq⟩ | ⟨-, sent, -, updates⟩
  · have absent := h.consistent.no_updates none t
    have written := answer_written unanswered rest u
    rw [eq]
    unfold unread
    rw [written, unanswered]
    simp [absent, ofType, Ne.symm other]
  · have same : (q.queueUpdate isActive u).answer poll = q.answer poll := by
      unfold answer
      rw [sent]
    unfold unread
    rw [same, updates, Function.update_of_ne other]

theorem Polled.queueRequest (h : q.Polled isActive none) {ch : Channel}
    (active : isActive ch = true) (unused : q.Unused ch) :
    (q.queueRequest ch).Polled isActive (some ch) := by
  have consistent := h.consistent.queueRequest ch
  rcases queueRequest_cases h.consistent ch with ⟨t, rest, u, -, -, eq⟩ | ⟨-, eq⟩
  · rw [eq] at consistent ⊢
    refine ⟨consistent, h.nodup, ?_, ?_, ?_⟩
    · intro other listed active
      have no := (h.own other listed active).1
      cases no
    · rintro other ⟨⟩
      exact active
    · rintro other ⟨⟩ none
      simp [answer, List.lookup_append, unused.2] at none
  · rw [eq] at consistent ⊢
    refine ⟨consistent, ?_, ?_, ?_, ?_⟩
    · exact List.nodup_append.mpr ⟨h.nodup, by simp, by
        rintro a ha b hb rfl
        exact unused.1 (List.mem_singleton.mp hb ▸ ha)⟩
    · intro other listed active
      rcases List.mem_append.mp listed with old | new
      · have no := (h.own other old active).1
        cases no
      · rw [List.mem_singleton.mp new]
        exact ⟨rfl, unused.2⟩
    · rintro other ⟨⟩
      exact active
    · rintro other ⟨⟩ _
      simp

theorem Polled.unread_queueRequest (h : q.Polled isActive none) {ch : Channel}
    (unused : q.Unused ch) (t : UpdateType) :
    (q.queueRequest ch).unread (some ch) t = q.unread none t := by
  rcases queueRequest_cases h.consistent ch with ⟨type, rest, u, -, pending, eq⟩ | ⟨-, eq⟩
  · have typed := h.consistent.typed type u pending
    rw [eq]
    unfold unread answer
    dsimp only [Option.bind_some, Option.bind_none]
    rw [List.lookup_append, unused.2]
    by_cases same : t = type
    · subst same
      simp [pending, ofType, typed]
    · simp [ofType, typed, Ne.symm same, same]
  · rw [eq]
    unfold unread answer
    simp [unused.2, ofType]

theorem Polled.ended (h : q.Polled isActive poll) {isActive' : Channel → Bool}
    (fewer : ∀ ch, isActive' ch = true → isActive ch = true)
    (closed : ∀ ch, poll = some ch → q.answer poll = none → isActive' ch = false) :
    q.Polled isActive' none := by
  refine ⟨h.consistent, h.nodup, ?_, fun _ no => (nomatch no), fun _ no => (nomatch no)⟩
  intro ch listed active
  obtain ⟨polls, unanswered⟩ := h.own ch listed (fewer ch active)
  rw [closed ch polls unanswered] at active
  cases active

theorem Polled.closed (h : q.Polled isActive poll) {isActive' : Channel → Bool}
    (fewer : ∀ ch, isActive' ch = true → isActive ch = true)
    (kept : ∀ ch, poll = some ch → isActive' ch = true) : q.Polled isActive' poll :=
  ⟨h.consistent, h.nodup, fun ch listed active => h.own ch listed (fewer ch active), kept, h.waits⟩

end Polling

end SessionUpdateQueue
end MusicCloud

import MusicCloud.SessionLifetimes

/-!
The long polls that sessions keep waiting. An accepted request is answered by a
response on its channel, which the queue of its session writes. Responses are
counted for each session and channel, so that a channel may carry several requests.
-/
namespace MusicCloud
open Runs

namespace SessionUpdateQueue
variable {Update : Type} [HasUpdateType Update]

def taken (ch : Channel) (q : SessionUpdateQueue Update) : Nat :=
  (q.sent.map Prod.fst).count ch + q.channelQueue.count ch

omit [HasUpdateType Update] in
theorem taken_queueRequest (new ch : Channel) (q : SessionUpdateQueue Update) :
    (q.queueRequest new).taken ch = q.taken ch + [new].count ch := by
  unfold queueRequest
  split
  · dsimp only
    split
    · simp only [taken, sendResponse, List.map_append, List.map_cons, List.map_nil,
        List.count_append]
      omega
    · simp only [taken, List.count_append]
      omega
  · simp only [taken, List.count_append]
    omega

omit [HasUpdateType Update] in
theorem taken_updateQueueSize {isActive : Channel → Bool} {ch : Channel}
    (active : isActive ch = true) (q : SessionUpdateQueue Update) :
    (q.updateQueueSize isActive).taken ch = q.taken ch := by
  have kept : (q.channelQueue.dropWhile fun c => !isActive c).count ch = q.channelQueue.count ch := by
    induction q.channelQueue with
    | nil => rfl
    | cons first rest ih =>
      rw [List.dropWhile_cons]
      split
      · rename_i closed
        have other : first ≠ ch := by
          intro same
          simp [same, active] at closed
        rw [ih, List.count_cons_of_ne other]
      · rfl
  unfold taken updateQueueSize
  dsimp only
  rw [kept]

theorem taken_queueUpdate {isActive : Channel → Bool} {ch : Channel}
    (active : isActive ch = true) (u : Update) (q : SessionUpdateQueue Update) :
    (q.queueUpdate isActive u).taken ch = q.taken ch := by
  rw [← taken_updateQueueSize active q]
  unfold queueUpdate
  dsimp only
  split
  · rename_i first rest waiting
    simp only [taken, sendResponse, List.map_append, List.map_cons, List.map_nil,
      List.count_append, waiting, List.count_cons, List.count_nil]
    omega
  · rename_i waiting
    split <;> simp only [taken, waiting]

end SessionUpdateQueue

namespace Session
variable {isActive : Channel → Bool} {ch : Channel}

theorem taken_sendUpdates (active : isActive ch = true) (us : List SessionUpdate) (s : Session) :
    (s.sendUpdates isActive us).updateQueue.taken ch = s.updateQueue.taken ch := by
  induction us generalizing s with
  | nil => rfl
  | cons u us ih =>
    rw [sendUpdates_cons, ih]
    exact SessionUpdateQueue.taken_queueUpdate active u s.updateQueue

end Session

namespace Managed
variable {w : Managed}

def responses (w : Managed) (id : Int) (ch : Channel) : Nat :=
  (((w.server.sessionMap id).toList ++ w.removed.filter fun x => x.id = id).flatMap
    fun session => session.updateQueue.sent.map Prod.fst).count ch

/-- A request of the channel has been accepted for the session and not been answered. -/
def Unanswered (w : Managed) (id : Int) (ch : Channel) : Prop :=
  w.responses id ch < w.accepted.count (id, ch)

/-- Every open channel with an unanswered request waits in the queue of a
    session that is in the map: the one that the request was accepted for. -/
def NoOrphan (w : Managed) : Prop :=
  ∀ id ch, w.server.isActive ch = true → w.Unanswered id ch →
    ∃ session, w.server.sessionMap id = some session ∧ ch ∈ session.updateQueue.channelQueue

/-- A session is destroyed only when no open channel waits in its queue. -/
def RemovesNoOpenPoll (w : Managed) : ManagerCall → Prop
  | .destroySession sessionID => ∀ session, w.server.sessionMap sessionID = some session →
      ∀ ch ∈ session.updateQueue.channelQueue, w.server.isActive ch = false
  | _ => True

structure Accounted (w : Managed) : Prop where
  booked : w.Booked
  taken : ∀ id session ch, w.server.sessionMap id = some session → w.server.isActive ch = true →
    w.accepted.count (id, ch) = session.updateQueue.taken ch
  accepted : ∀ x ∈ w.accepted, x.1 ≤ w.server.db.sessionSequence
  removed : ∀ x ∈ w.removed, x.id ≤ w.server.db.sessionSequence ∧ w.server.sessionMap x.id = none

theorem Accounted.handed (h : w.Accounted) {s : Server} (handed : Server.Handed w.server s) :
    ({ w with server := s } : Managed).Accounted := by
  refine ⟨h.booked.handed handed, ?_, ?_, ?_⟩
  · intro id session ch found active
    obtain ⟨us, eq⟩ := handed.map id
    rw [eq] at found
    obtain ⟨old, before, rfl⟩ := Option.map_eq_some_iff.mp found
    have same : w.server.isActive ch = true := handed.channels ▸ active
    rw [Session.taken_sendUpdates same]
    exact h.taken id old ch before same
  · intro x hx
    rw [handed.sequence]
    exact h.accepted x hx
  · intro x hx
    obtain ⟨bound, gone⟩ := h.removed x hx
    obtain ⟨us, eq⟩ := handed.map x.id
    rw [handed.sequence, eq, gone]
    exact ⟨bound, rfl⟩

theorem Accounted.created (h : w.Accounted) (ip : String) (type : SessionType) :
    ({ w with
        server := w.server.joined ip type
        live := w.live ++ [(w.server.db.sessionSequence + 1, type)] } : Managed).Accounted := by
  have sequence : (w.server.joined ip type).db.sessionSequence =
      w.server.db.sessionSequence + 1 := by
    cases type <;> rfl
  refine ⟨h.booked.created ip type, ?_, ?_, ?_⟩
  · intro id session ch found active
    by_cases new : id = w.server.db.sessionSequence + 1
    · have created : session = Session.create id ip type := by
        simpa [Server.joined, new, eq_comm] using found
      have unheard : (id, ch) ∉ w.accepted := by
        intro earlier
        have bound := h.accepted _ earlier
        dsimp only at bound
        omega
      rw [created]
      simpa [SessionUpdateQueue.taken, Session.create, SessionUpdateQueue.empty,
        List.count_eq_zero] using unheard
    · have before : w.server.sessionMap id = some session := by
        simpa [Server.joined, new] using found
      exact h.taken id session ch before active
  · intro x hx
    have bound := h.accepted x hx
    dsimp only
    omega
  · intro x hx
    obtain ⟨bound, gone⟩ := h.removed x hx
    have old : x.id ≠ w.server.db.sessionSequence + 1 := by omega
    dsimp only
    refine ⟨by omega, ?_⟩
    simpa [Server.joined, old] using gone

theorem Accounted.accept (h : w.Accounted) {sessionID : Int} {session : Session}
    (found : w.server.sessionMap sessionID = some session) (new : Channel) :
    ({ w with
        server := w.server.parked sessionID session new
        accepted := w.accepted ++ [(sessionID, new)] } : Managed).Accounted := by
  refine ⟨h.booked.accepted found new _, ?_, ?_, ?_⟩
  · intro id session' ch found' active
    dsimp only
    rw [List.count_append]
    by_cases same : id = sessionID
    · have parked : session' = session.assignRequest new := by
        simpa [Server.parked, same, eq_comm] using found'
      have before := h.taken sessionID session ch found active
      have one : [(sessionID, new)].count (sessionID, ch) = [new].count ch := by
        simp [List.count_singleton]
      rw [parked, same, before, one]
      exact (SessionUpdateQueue.taken_queueRequest new ch session.updateQueue).symm
    · have before : w.server.sessionMap id = some session' := by
        simpa [Server.parked, same] using found'
      have other : [(sessionID, new)].count (id, ch) = 0 := by
        simp [Ne.symm same]
      rw [other, Nat.add_zero]
      exact h.taken id session' ch before active
  · intro x hx
    rcases List.mem_append.mp hx with old | last
    · exact h.accepted x old
    · obtain ⟨-, r, hr, rid, -⟩ := h.booked.roster.live sessionID session found
      have bound := (h.booked.roster.numbered r hr).2
      rw [List.mem_singleton.mp last, ← rid]
      exact bound
  · intro x hx
    obtain ⟨bound, gone⟩ := h.removed x hx
    have other : x.id ≠ sessionID := by
      intro same
      rw [same, found] at gone
      cases gone
    refine ⟨bound, ?_⟩
    simpa [Server.parked, other] using gone

theorem Accounted.destroyed (h : w.Accounted) (sessionID : Int) :
    (w.left sessionID).Accounted := by
  refine ⟨h.booked.destroyed sessionID, ?_, h.accepted, ?_⟩
  · intro id session ch found active
    by_cases same : id = sessionID
    · simp [left, Server.left, same] at found
    · have before : w.server.sessionMap id = some session := by
        simpa [left, Server.left, same] using found
      exact h.taken id session ch before active
  · intro x hx
    rcases List.mem_append.mp hx with old | last
    · obtain ⟨bound, gone⟩ := h.removed x old
      refine ⟨bound, ?_⟩
      by_cases same : x.id = sessionID
      · simp [left, Server.left, same]
      · simpa [left, Server.left, same] using gone
    · have found : w.server.sessionMap sessionID = some x := Option.mem_toList.mp last
      obtain ⟨own, r, hr, rid, -⟩ := h.booked.roster.live sessionID x found
      have bound := (h.booked.roster.numbered r hr).2
      refine ⟨?_, ?_⟩
      · rw [own, ← rid]
        exact bound
      · simp [left, Server.left, own]

theorem isActive_of_closed {s : Server} {closed ch : Channel}
    (active : ({ s with closedChannels := closed :: s.closedChannels } : Server).isActive ch = true) :
    s.isActive ch = true := by
  simp only [Server.isActive, List.contains_cons, Bool.not_or, Bool.and_eq_true] at active
  exact active.2

theorem Accounted.closed (h : w.Accounted) (ch : Channel) :
    ({ w with server := { w.server with
        closedChannels := ch :: w.server.closedChannels } } : Managed).Accounted := by
  have booked := booked_step h.booked (.channelClosed ch)
  refine ⟨booked, ?_, h.accepted, h.removed⟩
  intro id session other found active
  exact h.taken id session other found (isActive_of_closed active)

theorem accounted_step (h : w.Accounted) (c : ManagerCall) : (w.step c).Accounted := by
  have change := change_step w c
  generalize w.step c = after at change ⊢
  cases change with
  | created pin ip type => exact h.created ip type
  | accepted sessionID ch session found => exact h.accept found ch
  | destroyed sessionID valid => exact h.destroyed sessionID
  | refused => exact h
  | unknown => exact h
  | negative => exact h
  | sent update sessionID handed => exact h.handed handed
  | broadcast update type handed => exact h.handed handed
  | closed ch => exact h.closed ch

theorem accounted_start (music : List MusicRow) (clock : Nat) : (start music clock).Accounted := by
  refine ⟨booked_run music clock [], ?_, ?_, ?_⟩
  · intro id session ch found
    cases found
  · intro x hx
    cases hx
  · intro x hx
    cases hx

theorem Accounted.not_removed (h : w.Accounted) {id : Int} {session : Session}
    (found : w.server.sessionMap id = some session) :
    w.removed.filter (fun x => x.id = id) = [] := by
  apply List.filter_eq_nil_iff.mpr
  intro x hx same
  have gone := (h.removed x hx).2
  rw [of_decide_eq_true same, found] at gone
  cases gone

theorem Accounted.responses_live (h : w.Accounted) {id : Int} {session : Session}
    (found : w.server.sessionMap id = some session) (ch : Channel) :
    w.responses id ch = (session.updateQueue.sent.map Prod.fst).count ch := by
  unfold responses
  rw [h.not_removed found, found]
  simp

theorem Accounted.waits (h : w.Accounted) {id : Int} {ch : Channel} {session : Session}
    (found : w.server.sessionMap id = some session) (active : w.server.isActive ch = true)
    (unanswered : w.Unanswered id ch) : ch ∈ session.updateQueue.channelQueue := by
  have taken := h.taken id session ch found active
  have responses := h.responses_live found ch
  unfold Unanswered at unanswered
  unfold SessionUpdateQueue.taken at taken
  apply List.count_pos_iff.mp
  omega

theorem NoOrphan.frame (good : w.NoOrphan) {after : Managed} (h : after.Accounted)
    (removed : after.removed = w.removed)
    (fewer : ∀ ch, after.server.isActive ch = true → w.server.isActive ch = true)
    (gone : ∀ id, after.server.sessionMap id = none → w.server.sessionMap id = none ∧
      ∀ ch, after.accepted.count (id, ch) = w.accepted.count (id, ch)) : after.NoOrphan := by
  intro id ch active unanswered
  cases found : after.server.sessionMap id with
  | some session => exact ⟨session, rfl, h.waits found active unanswered⟩
  | none =>
    obtain ⟨before, same⟩ := gone id found
    have still : w.Unanswered id ch := by
      unfold Unanswered responses at unanswered ⊢
      rw [found, removed, same] at unanswered
      rw [before]
      exact unanswered
    obtain ⟨session, no, -⟩ := good id ch (fewer ch active) still
    rw [before] at no
    cases no

theorem Accounted.responses_left (h : w.Accounted) {sessionID : Int} {session : Session}
    (found : w.server.sessionMap sessionID = some session) (ch : Channel) :
    (w.left sessionID).responses sessionID ch =
      (session.updateQueue.sent.map Prod.fst).count ch := by
  have own := (h.booked.roster.live sessionID session found).1
  unfold responses left
  dsimp only
  rw [List.filter_append, h.not_removed found, found]
  simp [Server.left, own]

theorem noOrphan_left_iff (h : w.Accounted) (good : w.NoOrphan) (sessionID : Int) :
    (w.left sessionID).NoOrphan ↔ w.RemovesNoOpenPoll (.destroySession sessionID) := by
  have after := h.destroyed sessionID
  constructor
  · intro kept session found ch waiting
    by_contra active
    have active : w.server.isActive ch = true := by simpa using active
    have taken := h.taken sessionID session ch found active
    have parked := List.count_pos_iff.mpr waiting
    unfold SessionUpdateQueue.taken at taken
    have lost : (w.left sessionID).Unanswered sessionID ch := by
      unfold Unanswered
      rw [h.responses_left found]
      unfold left
      dsimp only
      omega
    obtain ⟨other, no, -⟩ := kept sessionID ch active lost
    simp [left, Server.left] at no
  · intro closed id ch active unanswered
    by_cases same : id = sessionID
    · subst same
      cases found : w.server.sessionMap id with
      | none =>
        -- there was no such session: nothing has changed
        have still : w.Unanswered id ch := by
          unfold Unanswered responses at unanswered ⊢
          simpa [left, Server.left, found] using unanswered
        obtain ⟨session, no, -⟩ := good id ch active still
        rw [found] at no
        cases no
      | some session =>
        have taken := h.taken id session ch found active
        unfold Unanswered at unanswered
        rw [h.responses_left found] at unanswered
        unfold left at unanswered
        dsimp only at unanswered
        unfold SessionUpdateQueue.taken at taken
        have waiting : 0 < session.updateQueue.channelQueue.count ch := by omega
        have shut := closed session found ch (List.count_pos_iff.mp waiting)
        rw [show w.server.isActive ch = true from active] at shut
        cases shut
    · have map : (w.left sessionID).server.sessionMap id = w.server.sessionMap id := by
        simp [left, Server.left, same]
      cases found : w.server.sessionMap id with
      | some session =>
        exact ⟨session, map.trans found, after.waits (map.trans found) active unanswered⟩
      | none =>
        have others : (w.server.sessionMap sessionID).toList.filter (fun x => x.id = id) = [] := by
          apply List.filter_eq_nil_iff.mpr
          intro x hx listed
          have own := (h.booked.roster.live sessionID x (Option.mem_toList.mp hx)).1
          exact same ((of_decide_eq_true listed).symm.trans own)
        have still : w.Unanswered id ch := by
          unfold Unanswered responses at unanswered ⊢
          rw [map] at unanswered
          unfold left at unanswered
          dsimp only at unanswered
          rw [List.filter_append, others, List.append_nil] at unanswered
          exact unanswered
        obtain ⟨session, no, -⟩ := good id ch active still
        rw [found] at no
        cases no

theorem noOrphan_step_iff (h : w.Accounted) (good : w.NoOrphan) (c : ManagerCall) :
    (w.step c).NoOrphan ↔ w.RemovesNoOpenPoll c := by
  have after := accounted_step h c
  have change := change_step w c
  generalize w.step c = t at after change ⊢
  cases change with
  | created pin ip type =>
    refine iff_of_true (good.frame after rfl (fun ch active => active) ?_) trivial
    intro id gone
    by_cases new : id = w.server.db.sessionSequence + 1
    · simp [Server.joined, new] at gone
    · exact ⟨by simpa [Server.joined, new] using gone, fun ch => rfl⟩
  | accepted sessionID new session found =>
    refine iff_of_true (good.frame after rfl (fun ch active => active) ?_) trivial
    intro id gone
    by_cases same : id = sessionID
    · simp [Server.parked, same] at gone
    · refine ⟨by simpa [Server.parked, same] using gone, fun ch => ?_⟩
      simp [Ne.symm same]
  | destroyed sessionID valid => exact noOrphan_left_iff h good sessionID
  | refused => exact iff_of_true good trivial
  | unknown => exact iff_of_true good trivial
  | negative sessionID invalid =>
    refine iff_of_true good ?_
    intro session found
    obtain ⟨-, r, hr, rid, -⟩ := h.booked.roster.live sessionID session found
    have positive := (h.booked.roster.numbered r hr).1
    omega
  | sent _ _ handed | broadcast _ _ handed =>
    refine iff_of_true (good.frame after rfl (fun ch active => active) ?_) trivial
    intro id gone
    obtain ⟨us, eq⟩ := handed.map id
    dsimp only at gone
    rw [eq, Option.map_eq_none_iff] at gone
    exact ⟨gone, fun ch => rfl⟩
  | closed ch =>
    refine iff_of_true (good.frame after rfl (fun other active => isActive_of_closed active) ?_) trivial
    intro id gone
    exact ⟨gone, fun other => rfl⟩

end Managed

/-- No request is orphaned in any state of a run exactly if no step destroys a
    session in whose queue an open channel waits. -/
theorem no_orphaned_poll_iff (music : List MusicRow) (clock : Nat) (calls : List ManagerCall) :
    (∀ n, (run Managed.step (.start music clock) (calls.take n)).NoOrphan) ↔
      StepsMeet Managed.step Managed.RemovesNoOpenPoll (.start music clock) calls := by
  apply holds_throughout_iff Managed.step Managed.Accounted Managed.NoOrphan
  · intro w c h
    exact Managed.accounted_step h c
  · intro w c h good
    exact Managed.noOrphan_step_iff h good c
  · exact Managed.accounted_start music clock
  · intro id ch active unanswered
    simp [Managed.Unanswered, Managed.start] at unanswered

/-- A phone's poll is parked and its session destroyed: the channel is open, not
    answered, and waits nowhere. -/
theorem destroySession_orphans_poll :
    ¬ (run Managed.step (.start [] 0) [.createSession (some "1234") "10.0.0.1" .User,
      .registerRequest 1 7, .destroySession 1]).NoOrphan := by
  intro good
  obtain ⟨session, found, -⟩ := good 1 7 (by decide) (by unfold Managed.Unanswered; decide)
  cases found

end MusicCloud

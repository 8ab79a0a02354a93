import MusicCloud.SessionState

/-!
Runs of the session manager's own methods. Beside the server, a run keeps the
books that the manager does not keep: which sessions its callers have been given
and have not destroyed, which requests it has accepted, and the sessions it has
taken out of its map. No method reads them.
-/
namespace MusicCloud
open Runs

inductive ManagerCall where
  | createSession (pin : Option String) (ipAddress : String) (type : SessionType)
  | registerRequest (sessionID : Int) (ch : Channel)
  | sendUpdate (update : SessionUpdate) (sessionID : Int)
  | broadcastUpdate (update : SessionUpdate) (type : SessionType)
  | destroySession (sessionID : Int)
  | channelClosed (ch : Channel)
  deriving DecidableEq, Repr

structure Managed where
  server : Server
  /-- Created and not destroyed since, with the type asked for. -/
  live : List (Int × SessionType)
  /-- Requests that `registerRequest` has taken: the session and the channel. -/
  accepted : List (Int × Channel)
  removed : List Session

namespace Managed

def start (music : List MusicRow) (clock : Nat) : Managed :=
  { server := .start music clock, live := [], accepted := [], removed := [] }

def left (w : Managed) (sessionID : Int) : Managed :=
  { w with
    server := w.server.left sessionID
    live := w.live.filter fun x => x.1 ≠ sessionID
    removed := w.removed ++ (w.server.sessionMap sessionID).toList }

def step (w : Managed) : ManagerCall → Managed
  | .createSession pin ipAddress type =>
    match Server.createSession pin ipAddress type w.server with
    | .ok session s => { w with server := s, live := w.live ++ [(session.id, type)] }
    | .error _ s => { w with server := s }
  | .registerRequest sessionID ch =>
    match Server.registerRequest sessionID ch w.server with
    | .ok _ s => { w with server := s, accepted := w.accepted ++ [(sessionID, ch)] }
    | .error _ s => { w with server := s }
  | .sendUpdate update sessionID => { w with server := w.server.sendUpdate update sessionID }
  | .broadcastUpdate update type => { w with server := w.server.broadcastUpdate update type }
  | .destroySession sessionID =>
    match Server.destroySession sessionID w.server with
    | .ok _ s => { w with
        server := s
        live := w.live.filter fun x => x.1 ≠ sessionID
        removed := w.removed ++ (w.server.sessionMap sessionID).toList }
    | .error _ s => { w with server := s }
  | .channelClosed ch => { w with
      server := { w.server with closedChannels := ch :: w.server.closedChannels } }

inductive Change (w : Managed) : ManagerCall → Managed → Prop
  | created (pin ip type) : Change w (.createSession pin ip type)
      { w with
        server := w.server.joined ip type
        live := w.live ++ [(w.server.db.sessionSequence + 1, type)] }
  | accepted (sessionID ch session) (found : w.server.sessionMap sessionID = some session) :
      Change w (.registerRequest sessionID ch)
        { w with
          server := w.server.parked sessionID session ch
          accepted := w.accepted ++ [(sessionID, ch)] }
  | destroyed (sessionID) (valid : 0 ≤ sessionID) :
      Change w (.destroySession sessionID) (w.left sessionID)
  | refused (pin ip type) : Change w (.createSession pin ip type) w
  | unknown (sessionID ch) : Change w (.registerRequest sessionID ch) w
  | negative (sessionID) (invalid : sessionID < 0) : Change w (.destroySession sessionID) w
  | sent (update sessionID) (handed : Server.Handed w.server (w.server.sendUpdate update sessionID)) :
      Change w (.sendUpdate update sessionID)
        { w with server := w.server.sendUpdate update sessionID }
  | broadcast (update type) (handed : Server.Handed w.server (w.server.broadcastUpdate update type)) :
      Change w (.broadcastUpdate update type)
        { w with server := w.server.broadcastUpdate update type }
  | closed (ch) : Change w (.channelClosed ch)
      { w with server := { w.server with closedChannels := ch :: w.server.closedChannels } }

variable {w : Managed}

theorem change_step (w : Managed) (c : ManagerCall) : Change w c (w.step c) := by
  cases c with
  | createSession pin ip type =>
    unfold step
    dsimp only
    rw [Server.createSession_apply]
    cases pin with
    | none => exact .refused none ip type
    | some pin =>
      by_cases right : Server.authenticatePin pin
      · simp only [right, if_true]
        exact .created (some pin) ip type
      · simp only [right, if_false, Bool.false_eq_true]
        exact .refused (some pin) ip type
  | registerRequest sessionID ch =>
    unfold step
    dsimp only
    rw [Server.registerRequest_apply]
    cases found : w.server.sessionMap sessionID with
    | none => exact .unknown sessionID ch
    | some session => exact .accepted sessionID ch session found
  | sendUpdate update sessionID =>
    exact .sent update sessionID (Server.handed_of_act (.send _ update sessionID : Server.Act none _ _))
  | broadcastUpdate update type =>
    exact .broadcast update type (Server.handed_of_act (.broadcast _ update type : Server.Act none _ _))
  | destroySession sessionID =>
    unfold step
    dsimp only
    rw [Server.destroySession_apply]
    by_cases negative : sessionID < 0
    · rw [if_pos negative]
      exact .negative sessionID negative
    · rw [if_neg negative]
      exact .destroyed sessionID (by omega)
  | channelClosed ch => exact .closed ch

/-- The books and the map tell the same sessions. -/
structure Booked (w : Managed) : Prop where
  roster : w.server.RosterAgrees
  nodup : (w.live.map Prod.fst).Nodup
  known : ∀ id type, (id, type) ∈ w.live ↔
    ∃ session, w.server.sessionMap id = some session ∧ session.clientType = type

theorem Booked.numbered (h : w.Booked) {id : Int} {type : SessionType}
    (listed : (id, type) ∈ w.live) : id ≤ w.server.db.sessionSequence := by
  obtain ⟨session, found, -⟩ := (h.known id type).mp listed
  obtain ⟨-, r, hr, rid, -⟩ := h.roster.live id session found
  have bounds := h.roster.numbered r hr
  omega

theorem Booked.handed (h : w.Booked) {s : Server} (handed : Server.Handed w.server s) :
    ({ w with server := s } : Managed).Booked := by
  refine ⟨h.roster.handed handed, h.nodup, ?_⟩
  intro id type
  rw [h.known id type]
  constructor
  · rintro ⟨session, found, kind⟩
    obtain ⟨-, session', found', same, -⟩ := handed.handedTo found
    exact ⟨session', found', same.trans kind⟩
  · rintro ⟨session, found, kind⟩
    obtain ⟨old, before, same⟩ := handed.live found
    exact ⟨old, before, same.trans kind⟩

theorem Booked.created (h : w.Booked) (ip : String) (type : SessionType) :
    ({ w with
        server := w.server.joined ip type
        live := w.live ++ [(w.server.db.sessionSequence + 1, type)] } : Managed).Booked := by
  have fresh : ∀ kind, (w.server.db.sessionSequence + 1, kind) ∉ w.live := by
    intro kind listed
    have bound := h.numbered listed
    omega
  refine ⟨h.roster.joined ip type, ?_, ?_⟩
  · rw [List.map_append]
    refine List.Nodup.append h.nodup (List.nodup_singleton _) ?_
    intro id listed last
    obtain ⟨⟨other, kind⟩, member, same⟩ := List.mem_map.mp listed
    have new : other = w.server.db.sessionSequence + 1 := same.trans (List.mem_singleton.mp last)
    subst new
    exact fresh kind member
  · intro id kind
    by_cases new : id = w.server.db.sessionSequence + 1
    · subst new
      simp [Server.joined, Session.create, fresh, eq_comm]
    · simp [Server.joined, new, h.known id kind]

theorem Booked.accepted (h : w.Booked) {sessionID : Int} {session : Session}
    (found : w.server.sessionMap sessionID = some session) (ch : Channel)
    (accepted : List (Int × Channel)) :
    ({ w with
        server := w.server.parked sessionID session ch
        accepted := accepted } : Managed).Booked := by
  refine ⟨h.roster.parked found ch, h.nodup, ?_⟩
  intro id type
  rw [h.known id type]
  by_cases same : id = sessionID
  · subst same
    simp [Server.parked, found, Session.assignRequest]
  · simp [Server.parked, same]

theorem Booked.destroyed (h : w.Booked) (sessionID : Int) : (w.left sessionID).Booked := by
  refine ⟨h.roster.left sessionID, Tables.keys_nodup_filter h.nodup _, ?_⟩
  intro id type
  by_cases same : id = sessionID
  · subst same
    simp [left, Server.left]
  · simp [left, Server.left, same, h.known id type]

theorem booked_step (h : w.Booked) (c : ManagerCall) : (w.step c).Booked := by
  have change := change_step w c
  generalize w.step c = after at change ⊢
  cases change with
  | created pin ip type => exact h.created ip type
  | accepted sessionID ch session found => exact h.accepted found ch _
  | destroyed sessionID valid => exact h.destroyed sessionID
  | refused => exact h
  | unknown => exact h
  | negative => exact h
  | sent update sessionID handed => exact h.handed handed
  | broadcast update type handed => exact h.handed handed
  | closed ch =>
    have roster := h.roster
    exact ⟨⟨roster.nonneg, roster.nodup, roster.numbered, roster.live, roster.listed⟩, h.nodup, h.known⟩

theorem booked_run (music : List MusicRow) (clock : Nat) (calls : List ManagerCall) :
    (run step (start music clock) calls).Booked := by
  apply invariant_of_run step Booked (fun _ c h => booked_step h c)
  refine ⟨Server.rosterAgrees_start music clock, List.nodup_nil, ?_⟩
  intro id type
  simp [start, Server.start]

end Managed

/-- After every sequence of the manager's calls a broadcast is handed once to each
    session of the type that has been created and not destroyed since, and the
    map is otherwise as it was. -/
theorem broadcast_reaches_live_sessions (music : List MusicRow) (clock : Nat)
    (calls : List ManagerCall) (update : SessionUpdate) (type : SessionType) :
    let w := run Managed.step (.start music clock) calls
    let after := (w.server.broadcastUpdate update type).sessionMap
    (w.live.map Prod.fst).Nodup ∧
    (∀ id, (id, type) ∈ w.live → ∃ session, w.server.sessionMap id = some session ∧
      session.id = id ∧ after id = some (session.sendUpdate w.server.isActive update)) ∧
    ∀ id, (id, type) ∉ w.live → after id = w.server.sessionMap id := by
  intro w after
  have h : w.Booked := Managed.booked_run music clock calls
  refine ⟨h.nodup, ?_, ?_⟩
  · intro id listed
    obtain ⟨session, found, kind⟩ := (h.known id type).mp listed
    have once := h.roster.count_sessionIds found type
    rw [if_pos kind] at once
    refine ⟨session, found, (h.roster.live id session found).1, ?_⟩
    have reached := Server.broadcastUpdate_sessionMap update type w.server id
    rw [once, found] at reached
    exact reached
  · intro id unlisted
    have reached := Server.broadcastUpdate_sessionMap update type w.server id
    cases found : w.server.sessionMap id with
    | none =>
      rw [found] at reached
      exact reached
    | some session =>
      have other : session.clientType ≠ type :=
        fun same => unlisted ((h.known id type).mpr ⟨session, found, same⟩)
      have never := h.roster.count_sessionIds found type
      rw [if_neg other] at never
      rw [never, found] at reached
      exact reached

end MusicCloud

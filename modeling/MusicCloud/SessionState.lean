import MusicCloud.PlaybackState

/-!
The sessions of the table and those of the map are the same, and their numbers
are never used twice. `Roster` is the part of the server that this concerns.
The acts of the song manager keep it and only hand updates to live sessions.
-/
namespace MusicCloud
open Runs

namespace Session
variable (isActive : Channel → Bool)

@[simp] theorem sendUpdates_nil (s : Session) : s.sendUpdates isActive [] = s := rfl

@[simp] theorem sendUpdates_cons (u : SessionUpdate) (us : List SessionUpdate) (s : Session) :
    s.sendUpdates isActive (u :: us) = (s.sendUpdate isActive u).sendUpdates isActive us := rfl

theorem sendUpdates_append (us vs : List SessionUpdate) (s : Session) :
    s.sendUpdates isActive (us ++ vs) = (s.sendUpdates isActive us).sendUpdates isActive vs := by
  simp [sendUpdates, List.foldl_append]

@[simp] theorem sendUpdates_id (us : List SessionUpdate) (s : Session) :
    (s.sendUpdates isActive us).id = s.id := by
  induction us generalizing s with
  | nil => rfl
  | cons u us ih => exact ih (s.sendUpdate isActive u)

@[simp] theorem sendUpdates_clientType (us : List SessionUpdate) (s : Session) :
    (s.sendUpdates isActive us).clientType = s.clientType := by
  induction us generalizing s with
  | nil => rfl
  | cons u us ih => exact ih (s.sendUpdate isActive u)

@[simp] theorem sendUpdates_handed (us : List SessionUpdate) (s : Session) :
    (s.sendUpdates isActive us).handed = s.handed ++ us := by
  induction us generalizing s with
  | nil => simp
  | cons u us ih => simp [ih, sendUpdate]

end Session

namespace Server
variable {s t : Server}

section Delivery

theorem deliver_apply (isActive : Channel → Bool) (u : SessionUpdate)
    (sessionMap : Int → Option Session) (target id : Int) :
    deliver isActive u sessionMap target id =
      (sessionMap id).map (Session.sendUpdates isActive (if id = target then [u] else [])) := by
  unfold deliver
  by_cases same : id = target
  · subst same
    cases found : sessionMap id with
    | none => simp [found]
    | some session => simp
  · cases found : sessionMap target with
    | none => cases other : sessionMap id <;> simp [same, other]
    | some session => cases other : sessionMap id <;> simp [same, other]

theorem broadcastUpdate_sessionMap (u : SessionUpdate) (type : SessionType) (s : Server)
    (id : Int) : (s.broadcastUpdate u type).sessionMap id =
      (s.sessionMap id).map (Session.sendUpdates s.isActive
        (List.replicate ((s.db.sessionIds type).count id) u)) := by
  simp only [broadcastUpdate]
  generalize s.db.sessionIds type = ids
  generalize s.sessionMap = sessionMap
  induction ids generalizing sessionMap with
  | nil => cases found : sessionMap id <;> simp [found]
  | cons target ids ih =>
    rw [List.foldl_cons, ih, deliver_apply, Option.map_map]
    congr 1
    funext session
    by_cases same : id = target
    · subst same
      simp [List.replicate_succ]
    · simp [same, Ne.symm same]

theorem broadcastUpdate_unlisted (u : SessionUpdate) {type : SessionType} {s : Server} {id : Int}
    (unlisted : (s.db.sessionIds type).count id = 0) :
    (s.broadcastUpdate u type).sessionMap id = s.sessionMap id := by
  rw [broadcastUpdate_sessionMap, unlisted]
  cases found : s.sessionMap id <;> simp

theorem sendUpdate_sessionMap (u : SessionUpdate) (target : Int) (s : Server) (id : Int) :
    (s.sendUpdate u target).sessionMap id =
      (s.sessionMap id).map (Session.sendUpdates s.isActive (if id = target then [u] else [])) :=
  deliver_apply s.isActive u s.sessionMap target id

def handedTo (s : Server) (id : Int) : List SessionUpdate :=
  match s.sessionMap id with
  | some session => session.handed
  | none => []

theorem handedTo_sendUpdate {u : SessionUpdate} {id : Int} {session : Session}
    (live : s.sessionMap id = some session) :
    (s.sendUpdate u id).handedTo id = s.handedTo id ++ [u] := by
  simp [handedTo, sendUpdate_sessionMap, live, Session.sendUpdate]

structure Handed (s t : Server) : Prop where
  channels : t.isActive = s.isActive
  sessions : t.db.sessions = s.db.sessions
  sequence : t.db.sessionSequence = s.db.sessionSequence
  map : ∀ id, ∃ us, t.sessionMap id = (s.sessionMap id).map (Session.sendUpdates s.isActive us)

theorem Handed.refl (s : Server) : Handed s s :=
  ⟨rfl, rfl, rfl, fun id => ⟨[], by cases s.sessionMap id <;> simp⟩⟩

theorem Handed.trans {u : Server} (first : Handed s t) (second : Handed t u) : Handed s u := by
  refine ⟨second.channels.trans first.channels, second.sessions.trans first.sessions,
    second.sequence.trans first.sequence, fun id => ?_⟩
  obtain ⟨us, hus⟩ := first.map id
  obtain ⟨vs, hvs⟩ := second.map id
  refine ⟨us ++ vs, ?_⟩
  rw [hvs, hus, first.channels, Option.map_map]
  congr 1
  funext session
  simp [Session.sendUpdates_append]

theorem Handed.of_same (channels : t.isActive = s.isActive) (sessions : t.db.sessions = s.db.sessions)
    (sequence : t.db.sessionSequence = s.db.sessionSequence)
    (map : t.sessionMap = s.sessionMap) : Handed s t :=
  ⟨channels, sessions, sequence, fun id => ⟨[], by rw [map]; cases s.sessionMap id <;> simp⟩⟩

theorem Handed.handedTo (handed : Handed s t) {id : Int} {session : Session}
    (live : s.sessionMap id = some session) : ∃ us session', t.sessionMap id = some session' ∧
      session'.clientType = session.clientType ∧ t.handedTo id = s.handedTo id ++ us := by
  obtain ⟨us, hus⟩ := handed.map id
  rw [live, Option.map_some] at hus
  exact ⟨us, _, hus, by simp, by simp [Server.handedTo, live, hus]⟩

theorem Handed.live (handed : Handed s t) {id : Int} {session : Session}
    (live : t.sessionMap id = some session) :
    ∃ old, s.sessionMap id = some old ∧ old.clientType = session.clientType := by
  obtain ⟨us, hus⟩ := handed.map id
  rw [hus] at live
  obtain ⟨old, hold, rfl⟩ := Option.map_eq_some_iff.mp live
  exact ⟨old, hold, by simp⟩

theorem updateNextSong_sessions (current next : Option Int) (datetime : Nat) (db : Database) :
    (db.updateNextSong current next datetime).sessions = db.sessions ∧
    (db.updateNextSong current next datetime).sessionSequence = db.sessionSequence := by
  cases current <;> cases next <;> exact ⟨rfl, rfl⟩

theorem handed_of_act {report : Option (Int × Status)} (act : Act report s t) : Handed s t := by
  cases act with
  | broadcast update type => exact ⟨rfl, rfl, rfl, fun id => ⟨_, broadcastUpdate_sessionMap _ _ s id⟩⟩
  | send update sessionID => exact ⟨rfl, rfl, rfl, fun id => ⟨_, sendUpdate_sessionMap _ _ s id⟩⟩
  | refresh active running => exact .of_same rfl rfl rfl rfl
  | timer => exact .of_same rfl rfl rfl rfl
  | select song unset choice =>
    exact ⟨rfl, rfl, rfl, fun id => ⟨_, broadcastUpdate_sessionMap _ _ (s.selected song) id⟩⟩
  | selectFor song sessionID _ unset choice =>
    exact ⟨rfl, rfl, rfl, fun id => ⟨_, sendUpdate_sessionMap _ _ (s.selected song) id⟩⟩
  | mark active running => exact .of_same rfl rfl rfl rfl
  | start song _ _ next =>
    obtain ⟨sessions, sequence⟩ := updateNextSong_sessions (s.activeSong.map fun a => a.id)
      (some song.id) s.datetime s.db
    exact .of_same rfl sessions sequence rfl

theorem handed_of_acts {report : Option (Int × Status)} (acts : Acts report s t) : Handed s t := by
  induction acts with
  | refl => exact .refl s
  | tail _ act ih => exact ih.trans (handed_of_act act)

end Delivery

structure RosterAgrees (s : Server) : Prop where
  nonneg : 0 ≤ s.db.sessionSequence
  nodup : (s.db.sessions.map SessionRow.id).Nodup
  numbered : ∀ r ∈ s.db.sessions, 0 < r.id ∧ r.id ≤ s.db.sessionSequence
  live : ∀ id session, s.sessionMap id = some session →
    session.id = id ∧ ∃ r ∈ s.db.sessions, r.id = id ∧ r.sessionType = session.clientType
  listed : ∀ r ∈ s.db.sessions, (s.sessionMap r.id).isSome

section Roster

theorem RosterAgrees.handed (h : s.RosterAgrees) (handed : Handed s t) : t.RosterAgrees := by
  obtain ⟨-, sessions, sequence, map⟩ := handed
  refine ⟨?_, ?_, ?_, ?_, ?_⟩
  · rw [sequence]; exact h.nonneg
  · rw [sessions]; exact h.nodup
  · rw [sessions, sequence]; exact h.numbered
  · intro id session hsession
    obtain ⟨us, hus⟩ := map id
    rw [hus] at hsession
    obtain ⟨old, hold, rfl⟩ := Option.map_eq_some_iff.mp hsession
    rw [sessions]
    simpa using h.live id old hold
  · intro r hr
    obtain ⟨us, hus⟩ := map r.id
    rw [sessions] at hr
    rw [hus, Option.isSome_map]
    exact h.listed r hr

theorem RosterAgrees.joined (h : s.RosterAgrees) (ip : String) (type : SessionType) :
    (s.joined ip type).RosterAgrees := by
  have sessions : (s.joined ip type).db.sessions = s.db.sessions ++
      [{ id := s.db.sessionSequence + 1, ipAddress := ip, sessionType := type
         timeStarted := toInt (s.clock / 1000) }] := by
    cases type <;> rfl
  have sequence : (s.joined ip type).db.sessionSequence = s.db.sessionSequence + 1 := by
    cases type <;> rfl
  have fresh : ∀ r ∈ s.db.sessions, r.id ≠ s.db.sessionSequence + 1 := by
    intro r hr same
    have := (h.numbered r hr).2
    omega
  refine ⟨?_, ?_, ?_, ?_, ?_⟩
  · have := h.nonneg
    omega
  · rw [sessions, List.map_append]
    refine List.Nodup.append h.nodup (List.nodup_singleton _) ?_
    intro id hid last
    obtain ⟨r, hr, rfl⟩ := List.mem_map.mp hid
    exact fresh r hr (List.mem_singleton.mp last)
  · rw [sessions, sequence]
    intro r hr
    rcases List.mem_append.mp hr with old | new
    · have := h.numbered r old
      omega
    · have := h.nonneg
      rw [List.mem_singleton.mp new]
      dsimp only
      omega
  · intro id session hsession
    rw [sessions]
    by_cases same : id = s.db.sessionSequence + 1
    · subst same
      have created : session = Session.create (s.db.sessionSequence + 1) ip type := by
        simpa [Server.joined, eq_comm] using hsession
      subst created
      exact ⟨rfl, _, List.mem_append_right _ (List.mem_singleton_self _), rfl, rfl⟩
    · have old : s.sessionMap id = some session := by
        simpa [Server.joined, same] using hsession
      obtain ⟨eq, r, hr, id, type⟩ := h.live id session old
      exact ⟨eq, r, List.mem_append_left _ hr, id, type⟩
  · rw [sessions]
    intro r hr
    rcases List.mem_append.mp hr with old | new
    · have := h.listed r old
      simpa [Server.joined, fresh r old] using this
    · rw [List.mem_singleton.mp new]
      simp [Server.joined]

theorem RosterAgrees.left (h : s.RosterAgrees) (id : Int) : (s.left id).RosterAgrees := by
  have kept : ∀ r, r ∈ (s.left id).db.sessions ↔ r ∈ s.db.sessions ∧ r.id ≠ id := by
    intro r
    simp [Server.left, Database.deleteSession]
  refine ⟨h.nonneg, Tables.keys_nodup_filter h.nodup _, ?_, ?_, ?_⟩
  · intro r hr
    exact h.numbered r ((kept r).mp hr).1
  · intro i session hsession
    by_cases same : i = id
    · simp [Server.left, same] at hsession
    · have old : s.sessionMap i = some session := by simpa [Server.left, same] using hsession
      obtain ⟨eq, r, hr, rid, type⟩ := h.live i session old
      exact ⟨eq, r, (kept r).mpr ⟨hr, by rw [rid]; exact same⟩, rid, type⟩
  · intro r hr
    obtain ⟨old, other⟩ := (kept r).mp hr
    have := h.listed r old
    simpa [Server.left, other] using this

theorem RosterAgrees.parked (h : s.RosterAgrees) {id : Int} {session : Session}
    (found : s.sessionMap id = some session) (ch : Channel) :
    (s.parked id session ch).RosterAgrees := by
  refine ⟨h.nonneg, h.nodup, h.numbered, ?_, ?_⟩
  · intro i x hx
    by_cases same : i = id
    · subst same
      have eq : x = session.assignRequest ch := by simpa [Server.parked, eq_comm] using hx
      subst eq
      exact h.live i session found
    · exact h.live i x (by simpa [Server.parked, same] using hx)
  · intro r hr
    by_cases same : r.id = id
    · simp [Server.parked, same]
    · simpa [Server.parked, same] using h.listed r hr

theorem RosterAgrees.count_sessionIds (h : s.RosterAgrees) {id : Int} {session : Session}
    (found : s.sessionMap id = some session) (type : SessionType) :
    (s.db.sessionIds type).count id = if session.clientType = type then 1 else 0 := by
  obtain ⟨-, r, hr, rid, rtype⟩ := h.live id session found
  by_cases same : session.clientType = type
  · rw [if_pos same]
    refine List.count_eq_one_of_mem (Tables.keys_nodup_filter h.nodup _) ?_
    exact List.mem_map.mpr ⟨r, List.mem_filter.mpr ⟨hr, by simp [rtype, same]⟩, rid⟩
  · rw [if_neg same]
    refine List.count_eq_zero.mpr fun listed => ?_
    obtain ⟨other, hother, oid⟩ := List.mem_map.mp listed
    obtain ⟨hother, otype⟩ := List.mem_filter.mp hother
    have eq := Tables.row_unique h.nodup hr hother (rid.trans oid.symm)
    subst eq
    exact same (rtype ▸ of_decide_eq_true otype)

/-- The state in which a call has changed the roster itself: a session has
    joined or left, a request has been parked, or a channel has been closed. -/
def reseated (s : Server) : Call → Server
  | .authenticateUser (some pin) ip => if authenticatePin pin then s.joined ip .User else s
  | .authenticateSpeaker (some pin) ip => if authenticatePin pin then s.joined ip .Speaker else s
  | .destroySession id => if id < 0 then s else s.left id
  | .registerRequest sessionID ch =>
    match s.sessionMap sessionID with
    | some session => s.parked sessionID session ch
    | none => s
  | .channelClosed ch => { s with closedChannels := ch :: s.closedChannels }
  | _ => s

theorem handed_written (s : Server) (c : Call) : Handed (s.reseated c) (s.written c) := by
  cases c with
  | authenticateUser pin ip => cases pin <;> exact .refl _
  | authenticateSpeaker pin ip => cases pin <;> exact .refl _
  | vote _ _ | like _ _ | dislike _ _ =>
    rw [written]
    split
    · exact .refl s
    · exact .of_same rfl rfl rfl rfl
  | clockAdvanced ms => exact .of_same rfl rfl rfl rfl
  | rescanned rank => exact .of_same rfl rfl rfl rfl
  | destroySession _ | getActiveSong | getStats | registerRequest _ _ | speakerStatusUpdate _ _
  | fireTask _ | channelClosed _ => exact .refl _

theorem handed_call (agrees : s.playback.Agrees) (c : Call) :
    Handed (s.reseated c) (s.call c) :=
  (handed_written s c).trans (handed_of_acts (acts_call agrees c))

theorem RosterAgrees.reseated (h : s.RosterAgrees) (c : Call) : (s.reseated c).RosterAgrees := by
  unfold Server.reseated
  split
  · split
    · exact h.joined _ .User
    · exact h
  · split
    · exact h.joined _ .Speaker
    · exact h
  · split
    · exact h
    · exact h.left _
  · split
    · exact h.parked ‹_› _
    · exact h
  · exact ⟨h.nonneg, h.nodup, h.numbered, h.live, h.listed⟩
  · exact h

theorem rosterAgrees_call (agrees : s.playback.Agrees) (h : s.RosterAgrees) (c : Call) :
    (s.call c).RosterAgrees :=
  (h.reseated c).handed (handed_call agrees c)

theorem rosterAgrees_start (music : List MusicRow) (clock : Nat) :
    (start music clock).RosterAgrees :=
  ⟨le_refl _, List.nodup_nil, by simp [start, Database.create], by simp [start],
    by simp [start, Database.create]⟩

theorem rosterAgrees_run (music : List MusicRow) (clock : Nat) (calls : List Call) :
    (run call (start music clock) calls).RosterAgrees :=
  (invariant_of_run call (fun s => s.playback.Agrees ∧ s.RosterAgrees)
    (fun _ c ⟨agrees, h⟩ => ⟨agrees_call agrees c, rosterAgrees_call agrees h c⟩) calls _
    ⟨agrees_start music clock, rosterAgrees_start music clock⟩).2

end Roster

end Server
end MusicCloud

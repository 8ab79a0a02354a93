import MusicCloud.Requests
import MusicCloud.Relational

/-!
What a phone changes by acting as a speaker. The endpoints of the speakers ask
for a valid session and an address, not for the session's type, so a phone's
requests are served there too. Two states are alike when only the queues of
phones differ; every call keeps that, and a harmless request does no more.
-/
namespace MusicCloud
open Runs Relational

/-- Equal, or the same phone with another queue. -/
inductive SessionAlike : Option Session → Option Session → Prop
  | same (found : Option Session) : SessionAlike found found
  | phone (session : Session) (user : session.clientType = .User)
      (queue : SessionUpdateQueue SessionUpdate) (handed : List SessionUpdate) :
      SessionAlike (some session) (some { session with updateQueue := queue, handed := handed })

namespace SessionAlike
variable {a b c : Option Session}

theorem symm (alike : SessionAlike a b) : SessionAlike b a := by
  cases alike with
  | same => exact .same a
  | phone session user queue handed =>
    exact .phone { session with updateQueue := queue, handed := handed } user
      session.updateQueue session.handed

theorem trans (first : SessionAlike a b) (second : SessionAlike b c) : SessionAlike a c := by
  cases first with
  | same => exact second
  | phone session user queue handed =>
    cases second with
    | same => exact .phone session user queue handed
    | phone _ _ queue handed => exact .phone session user queue handed

theorem sendUpdates (alike : SessionAlike a b) (isActive : Channel → Bool)
    (us : List SessionUpdate) : SessionAlike (a.map (Session.sendUpdates isActive us))
      (b.map (Session.sendUpdates isActive us)) := by
  induction us generalizing a b with
  | nil =>
    cases alike with
    | same => exact .same _
    | phone session user queue handed => exact .phone session user queue handed
  | cons u us ih =>
    cases alike with
    | same => exact .same _
    | phone session user queue handed =>
      exact ih (.phone (session.sendUpdate isActive u) user
        (queue.queueUpdate isActive u) (handed ++ [u]))

theorem speaker (alike : SessionAlike a b) {session : Session} (type : session.clientType = .Speaker) :
    a = some session ↔ b = some session := by
  cases alike with
  | same => exact Iff.rfl
  | phone other user queue handed =>
    constructor
    · intro eq
      rw [Option.some.inj eq, type] at user
      cases user
    · intro eq
      rw [← Option.some.inj eq] at type
      exact absurd (user.symm.trans type) (by decide)

end SessionAlike

namespace Server
variable {s t : Server}

inductive Alike (s : Server) : Server → Prop
  | intro (map : Int → Option Session) (sessions : ∀ id, SessionAlike (s.sessionMap id) (map id)) :
      Alike s { s with sessionMap := map }

namespace Alike

theorem of_map (others : t = { s with sessionMap := t.sessionMap })
    (sessions : ∀ id, SessionAlike (s.sessionMap id) (t.sessionMap id)) : Alike s t := by
  rw [others]
  exact .intro t.sessionMap sessions

theorem refl (s : Server) : Alike s s := .intro s.sessionMap fun _ => .same _

theorem symm (alike : Alike s t) : Alike t s := by
  cases alike with
  | intro map sessions =>
    exact .intro (s := { s with sessionMap := map }) s.sessionMap fun id => (sessions id).symm

theorem trans {u : Server} (first : Alike s t) (second : Alike t u) : Alike s u := by
  cases first with
  | intro map sessions =>
    cases second with
    | intro map' sessions' => exact .intro map' fun id => (sessions id).trans (sessions' id)

theorem db (alike : Alike s t) : t.db = s.db := by
  cases alike
  rfl

end Alike

def Keeps (f : Server → Server) : Prop := ∀ s t, Alike s t → Alike (f s) (f t)

section Primitives

theorem keeps_db (f : Database → Database) : Keeps fun s => { s with db := f s.db } := by
  intro s t alike
  cases alike with
  | intro map sessions => exact .intro map sessions

theorem keeps_sendUpdate (update : SessionUpdate) (sessionID : Int) :
    Keeps (sendUpdate update sessionID) := by
  intro s t alike
  cases alike with
  | intro map sessions =>
    apply Alike.of_map rfl
    intro id
    rw [sendUpdate_sessionMap, sendUpdate_sessionMap]
    exact (sessions id).sendUpdates _ _

theorem keeps_broadcastUpdate (update : SessionUpdate) (type : SessionType) :
    Keeps (broadcastUpdate update type) := by
  intro s t alike
  cases alike with
  | intro map sessions =>
    apply Alike.of_map rfl
    intro id
    rw [broadcastUpdate_sessionMap, broadcastUpdate_sessionMap]
    exact (sessions id).sendUpdates _ _

theorem keeps_broadcastVotes : Keeps fun s => s.broadcastUpdate (.votes s.db.getVotes) .User := by
  intro s t alike
  cases alike with
  | intro map sessions =>
    exact keeps_broadcastUpdate (.votes s.db.getVotes) .User s _ (.intro map sessions)

theorem keeps_cancelSongTimerTask : Keeps cancelSongTimerTask := by
  intro s t alike
  cases alike with
  | intro map sessions =>
    rw [cancelSongTimerTask_eq, cancelSongTimerTask_eq]
    exact .intro map sessions

theorem keeps_cleared : Keeps cleared := by
  intro s t alike
  cases alike with
  | intro map sessions =>
    unfold cleared
    rw [cancelSongTimerTask_eq, cancelSongTimerTask_eq]
    exact .intro map sessions

theorem keeps_starttime : Keeps fun s => { s with songStarttime := toInt (s.clock / 1000) } := by
  intro s t alike
  cases alike with
  | intro map sessions =>
    dsimp only
    generalize toInt (s.clock / 1000) = time
    exact .intro map sessions

theorem blind_newSongTimerTask (action : TaskAction) : Blind Alike (newSongTimerTask action) := by
  intro s t alike
  cases alike with
  | intro map sessions =>
    rw [newSongTimerTask_apply, newSongTimerTask_apply]
    exact .ok (.intro map sessions)

theorem blind_schedule (task : TimerTask) (delay : Int) : Blind Alike (schedule task delay) := by
  intro s t alike
  cases alike with
  | intro map sessions =>
    have same : ({ s with sessionMap := map } : Server).accepts delay ↔ s.accepts delay := Iff.rfl
    rw [schedule_apply, schedule_apply]
    by_cases accepted : s.accepts delay
    · rw [if_pos accepted, if_pos (same.mpr accepted)]
      exact .ok (.intro map sessions)
    · rw [if_neg accepted, if_neg (same.not.mpr accepted)]
      exact .error (.intro map sessions)

theorem blind_getActiveSong : Blind Alike getActiveSong := by
  intro s t alike
  cases alike with
  | intro map sessions =>
    rw [getActiveSong_apply, getActiveSong_apply]
    dsimp only
    cases running : s.activeSong with
    | some active => exact .ok (.intro map sessions)
    | none =>
      dsimp only
      rw [← running]
      split
      · exact .error (.intro map sessions)
      · exact .error (.intro map sessions)

theorem blind_reads {α : Type} {f : Server → ServerM α}
    (ignores : ∀ (s : Server) (map : Int → Option Session), f { s with sessionMap := map } = f s)
    (rest : ∀ s, Blind Alike (f s)) : Blind Alike (get >>= f) := by
  apply Blind.get _ rest
  intro s t alike
  cases alike with
  | intro map sessions => exact (ignores s map).symm

theorem blind_getNextSongFromDB : Blind Alike getNextSongFromDB := by
  unfold getNextSongFromDB
  apply blind_reads fun _ _ => rfl
  intro s
  cases s.db.nextSongQuery with
  | nil => exact .throw _
  | cons row rest =>
    dsimp only
    split
    · exact .pure _
    · exact .throw _

end Primitives

section Songs

theorem blind_getNextSong : Blind Alike getNextSong := by
  unfold getNextSong
  apply blind_reads fun _ _ => rfl
  intro s
  cases s.nextSong with
  | some song => exact .pure song
  | none =>
    apply Blind.bind blind_getNextSongFromDB
    intro song
    refine .bind (.modify ?_) fun _ => .pure song
    intro s t alike
    cases alike with
    | intro map sessions => exact .intro map sessions

theorem blind_scheduleNextSong : Blind Alike scheduleNextSong := by
  unfold scheduleNextSong
  apply blind_reads fun _ _ => rfl
  intro s
  cases s.nextSong with
  | some song => exact .pure _
  | none => exact .bind blind_getNextSong fun song => .modify (keeps_broadcastUpdate _ _)

theorem blind_newSpeakerAuthenticated (sessionID : Int) :
    Blind Alike (newSpeakerAuthenticated sessionID) := by
  unfold newSpeakerAuthenticated
  apply Blind.tryCatch
  · exact .bind blind_getActiveSong fun song => .modify (keeps_sendUpdate _ _)
  · intro e
    cases e with
    | noSuchElement => exact blind_scheduleNextSong
    | _ => exact .throw _

end Songs

section ClientActions

theorem blind_ofExcept {α : Type} (x : Except JavaException α) :
    Blind Alike (MonadExcept.ofExcept x : ServerM α) := by
  cases x with
  | ok a => exact .pure a
  | error e => exact .throw e

theorem blind_getStats : Blind Alike getStats := by
  unfold getStats
  apply Blind.bind blind_getActiveSong
  intro active
  apply blind_reads fun _ _ => rfl
  intro s
  exact .bind (blind_ofExcept _) fun balance => blind_ofExcept _

theorem blind_vote (songID sessionID : Int) : Blind Alike (vote songID sessionID) := by
  unfold vote
  split
  · exact .throw_bind _ _
  · exact .bind (.modify (keeps_db _)) fun _ => .modify keeps_broadcastVotes

theorem blind_like (songID sessionID : Int) : Blind Alike (like songID sessionID) := by
  unfold like
  split
  · exact .throw_bind _ _
  · apply Blind.bind (.modify (keeps_db _))
    intro _
    exact .bind blind_getStats fun stats => .modify (keeps_broadcastUpdate _ _)

theorem blind_skipToNext : Blind Alike skipToNext := by
  unfold skipToNext
  apply blind_reads fun _ _ => rfl
  intro s
  split
  · exact .throw_bind _ _
  · apply Blind.bind (.modify keeps_cleared)
    intro _
    apply Blind.bind blind_getNextSong
    intro song
    apply Blind.bind (.modify (keeps_broadcastUpdate _ _))
    intro _
    apply Blind.bind (.modify (keeps_broadcastUpdate _ _))
    intro _
    exact .bind (blind_newSongTimerTask _) fun task => blind_schedule task _

theorem blind_dislike (songID sessionID : Int) : Blind Alike (dislike songID sessionID) := by
  unfold dislike
  split
  · exact .throw_bind _ _
  · apply Blind.bind (.modify (keeps_db _))
    intro _
    apply Blind.bind blind_getStats
    intro stats
    apply Blind.bind (.modify (keeps_broadcastUpdate _ _))
    intro _
    apply blind_reads fun _ _ => rfl
    intro s
    apply blind_reads fun _ _ => rfl
    intro t
    split
    · split
      · exact blind_skipToNext
      · exact .pure _
    · exact .pure _

end ClientActions

section SpeakerActions

theorem blind_updatePlayback : Blind Alike updatePlayback := by
  unfold updatePlayback
  apply Blind.bind (.modify keeps_cancelSongTimerTask)
  intro _
  apply Blind.bind (blind_newSongTimerTask _)
  intro task
  apply blind_reads fun _ _ => rfl
  intro s
  cases s.nextSong with
  | none => exact .throw _
  | some song =>
    dsimp only
    apply Blind.bind (blind_schedule _ _)
    intro _
    apply Blind.bind (.modify keeps_starttime)
    intro _
    apply Blind.bind (.modify ?_)
    · intro _
      apply Blind.modify
      intro s t alike
      cases alike with
      | intro map sessions => exact .intro map sessions
    · intro s t alike
      cases alike with
      | intro map sessions => exact .intro map sessions

theorem blind_announce : Blind Alike announce := by
  unfold announce
  apply Blind.bind blind_getActiveSong
  intro active
  apply Blind.bind (.modify (keeps_broadcastUpdate _ _))
  intro _
  apply Blind.bind blind_getStats
  intro stats
  exact .bind (.modify (keeps_broadcastUpdate _ _)) fun _ => .modify keeps_broadcastVotes

theorem blind_playingUpdate (sessionID songID : Int) :
    Blind Alike (playingUpdate sessionID songID) := by
  unfold playingUpdate
  apply blind_reads fun _ _ => rfl
  intro s
  cases s.nextSong with
  | none => exact .throw _
  | some song =>
    dsimp only
    split
    · exact .bind blind_updatePlayback fun _ => blind_announce
    · apply Blind.get
      · intro s t alike
        cases alike
        rfl
      · intro s
        cases s.activeSong with
        | none => exact .pure _
        | some active =>
          dsimp only
          split
          · apply Blind.bind blind_getActiveSong
            intro active
            exact .bind (.modify (keeps_sendUpdate _ _)) fun _ => .modify (keeps_sendUpdate _ _)
          · exact .pure _

theorem blind_stoppedUpdate (sessionID : Int) : Blind Alike (stoppedUpdate sessionID) := by
  unfold stoppedUpdate
  apply blind_reads fun _ _ => rfl
  intro s
  cases s.activeSong with
  | none => exact .throw _
  | some active =>
    dsimp only
    apply Blind.bind (.modify (keeps_db _))
    intro _
    apply blind_reads fun _ _ => rfl
    intro s
    split
    · exact .bind blind_getNextSong fun song => .modify (keeps_sendUpdate _ _)
    · exact .pure _

theorem blind_readyUpdate (sessionID songID : Int) : Blind Alike (readyUpdate sessionID songID) := by
  unfold readyUpdate
  apply blind_reads fun _ _ => rfl
  intro s
  cases s.nextSong with
  | none => exact .throw _
  | some song =>
    dsimp only
    split
    · exact .modify (keeps_sendUpdate _ _)
    · exact .modify (keeps_sendUpdate _ _)

theorem blind_speakerStatusUpdate (sessionID : Int) (update : Option StatusUpdateMessage) :
    Blind Alike (speakerStatusUpdate sessionID update) := by
  intro s t alike
  rw [speakerStatusUpdate_apply, speakerStatusUpdate_apply]
  split
  · exact .error alike
  · split
    · exact .error alike
    · exact .error alike
    · exact blind_playingUpdate _ _ s t alike
    · exact blind_stoppedUpdate _ s t alike
    · exact blind_readyUpdate _ _ s t alike
    · exact .ok alike

theorem blind_runTask (action : TaskAction) : Blind Alike (runTask action) := by
  cases action with
  | scheduleNextSong =>
    apply Blind.bind blind_scheduleNextSong
    intro _
    exact .bind (blind_newSongTimerTask _) fun task => blind_schedule task _
  | rebroadcastNextSong =>
    exact .bind blind_getNextSong fun song => .modify (keeps_broadcastUpdate _ _)
  | stopActiveSong =>
    exact .bind blind_getActiveSong fun active => .modify (keeps_broadcastUpdate _ _)

end SpeakerActions

section Sessions

theorem alike_update (alike : Alike s t) {db db' : Database} (rows : db' = db) (id : Int)
    {found found' : Option Session} (entry : SessionAlike found found') :
    Alike { s with db := db, sessionMap := Function.update s.sessionMap id found }
      { t with db := db', sessionMap := Function.update t.sessionMap id found' } := by
  subst rows
  cases alike with
  | intro map sessions =>
    apply Alike.of_map rfl
    intro other
    by_cases same : other = id
    · subst same
      simpa using entry
    · simpa [same] using sessions other

theorem keeps_joined (ip : String) (type : SessionType) :
    Keeps fun s => s.joined ip type := by
  intro s t alike
  have same : t.db = s.db ∧ t.clock = s.clock := by
    cases alike
    exact ⟨rfl, rfl⟩
  unfold joined
  dsimp only
  rw [same.1]
  exact alike_update alike (by rw [same.2]) _ (.same _)

theorem keeps_left (sessionID : Int) : Keeps fun s => s.left sessionID := by
  intro s t alike
  unfold left
  exact alike_update alike (by rw [alike.db]) _ (.same _)

theorem blind_clientAuthenticate (pin : Option String) (ip : String) :
    Blind Alike (clientAuthenticate pin ip) := by
  intro s t alike
  rw [clientAuthenticate_apply, clientAuthenticate_apply, alike.db]
  cases pin with
  | none => exact .ok alike
  | some pin =>
    dsimp only
    split
    · exact .ok (keeps_joined ip .User s t alike)
    · exact .ok alike

theorem blind_welcomeSpeaker (session : Session) : Blind Alike (welcomeSpeaker session) := by
  intro s t alike
  have found := blind_getActiveSong s t alike
  unfold welcomeSpeaker
  generalize getActiveSong s = x at found ⊢
  generalize getActiveSong t = y at found ⊢
  cases found with
  | ok alike => exact .ok (keeps_sendUpdate _ _ _ _ alike)
  | @error e s t alike =>
    cases e with
    | noSuchElement =>
      have told := blind_newSpeakerAuthenticated session.id s t alike
      dsimp only [catching]
      generalize newSpeakerAuthenticated session.id s = x at told ⊢
      generalize newSpeakerAuthenticated session.id t = y at told ⊢
      cases told with
      | ok alike => exact .ok alike
      | error alike => exact .ok alike
    | _ => exact .ok alike

theorem blind_speakerAuthenticate (pin : Option String) (ip : String) :
    Blind Alike (speakerAuthenticate pin ip) := by
  intro s t alike
  rw [speakerAuthenticate_apply, speakerAuthenticate_apply, alike.db]
  cases pin with
  | none => exact .ok alike
  | some pin =>
    dsimp only
    split
    · exact blind_welcomeSpeaker _ _ _ (keeps_joined ip .Speaker s t alike)
    · exact .ok alike

theorem blind_destroySession (sessionID : Int) : Blind Alike (destroySession sessionID) := by
  intro s t alike
  rw [destroySession_apply, destroySession_apply]
  split
  · exact .error alike
  · exact .ok (keeps_left sessionID s t alike)

theorem blind_registerRequest (sessionID : Int) (ch : Channel) :
    Blind Alike (registerRequest sessionID ch) := by
  intro s t alike
  rw [registerRequest_apply, registerRequest_apply]
  have entry : SessionAlike (s.sessionMap sessionID) (t.sessionMap sessionID) := by
    cases alike with
    | intro map sessions => exact sessions sessionID
  generalize s.sessionMap sessionID = found at entry ⊢
  generalize t.sessionMap sessionID = found' at entry ⊢
  cases entry with
  | same =>
    cases found with
    | none => exact .error alike
    | some session => exact .ok (alike_update alike alike.db sessionID (.same _))
  | phone session user queue handed =>
    exact .ok (alike_update alike alike.db sessionID
      (.phone (session.assignRequest ch) user (queue.queueRequest ch) handed))

end Sessions

theorem finalState_alike {α : Type} {x y : EStateM.Result JavaException Server α}
    (same : Same Alike x y) : Alike (finalState x) (finalState y) := by
  cases same with
  | ok alike => exact alike
  | error alike => exact alike

theorem alike_call (c : Call) (alike : Alike s t) : Alike (s.call c) (t.call c) := by
  cases c with
  | authenticateUser pin ip => exact finalState_alike (blind_clientAuthenticate pin ip s t alike)
  | authenticateSpeaker pin ip => exact finalState_alike (blind_speakerAuthenticate pin ip s t alike)
  | destroySession id => exact finalState_alike (blind_destroySession id s t alike)
  | vote songID sessionID => exact finalState_alike (blind_vote songID sessionID s t alike)
  | like songID sessionID => exact finalState_alike (blind_like songID sessionID s t alike)
  | dislike songID sessionID => exact finalState_alike (blind_dislike songID sessionID s t alike)
  | getActiveSong => exact finalState_alike (blind_getActiveSong s t alike)
  | getStats => exact finalState_alike (blind_getStats s t alike)
  | registerRequest sessionID ch =>
    exact finalState_alike (blind_registerRequest sessionID ch s t alike)
  | speakerStatusUpdate sessionID update =>
    exact finalState_alike (blind_speakerStatusUpdate sessionID update s t alike)
  | fireTask task =>
    unfold call fireTask
    cases alike with
    | intro map sessions =>
      dsimp only
      split
      · exact finalState_alike (blind_runTask task.action _ _
          (.intro (s := { s with songTimer := s.songTimer.erase task }) map sessions))
      · exact .intro map sessions
  | channelClosed ch =>
    cases alike with
    | intro map sessions => exact .intro map sessions
  | clockAdvanced ms =>
    cases alike with
    | intro map sessions => exact .intro map sessions
  | rescanned rank =>
    cases alike with
    | intro map sessions => exact .intro map sessions

theorem alike_serve (e : Event) (alike : Alike s t) : Alike (s.serve e) (t.serve e) := by
  have same : t.comesTo e = s.comesTo e := by
    cases alike
    rfl
  rw [serve_eq, serve_eq, same]
  cases s.comesTo e with
  | none => exact alike
  | some c => exact alike_call c alike

section Requests

def PhoneAt (s : Server) (clientID : Int) (ip : String) : Prop :=
  ∃ r ∈ s.db.sessions, r.id = clientID ∧ r.ipAddress = ip ∧ r.sessionType = .User

instance (s : Server) (clientID : Int) (ip : String) : Decidable (s.PhoneAt clientID ip) :=
  inferInstanceAs (Decidable (∃ r ∈ s.db.sessions, _))

def PhoneRequest (s : Server) : Event → Prop
  | .request ip (.statusUpdate clientID _) => s.PhoneAt clientID ip
  | .request ip (.requestUpdate clientID _) => s.PhoneAt clientID ip
  | .request ip (.requestSong clientID _ _) => s.PhoneAt clientID ip
  | _ => False

/-- A report that only the session it comes from notices. -/
def HarmlessReport (s : Server) : Option StatusUpdateMessage → Prop
  | some ⟨songID, some .Playing⟩ => ∀ next, s.nextSong = some next → songID ≠ next.id ∧
      ∀ active, s.activeSong = some active → songID = active.id ∨ s.positioned active = active
  | some ⟨_, some .Stopped⟩ => ∀ active, s.activeSong = some active →
      (∀ r ∈ s.db.songs, r.id = active.id → r.status = .Stopped) ∧
        (s.nextSong = none → ∀ r ∈ s.db.songs, r.status ≠ .Inactive)
  | _ => True

def Harmless (s : Server) : Event → Prop
  | .request _ (.statusUpdate _ update) => s.HarmlessReport update
  | .request _ (.requestSong _ songID readable) =>
    readable = true → ∀ r ∈ s.db.songs, r.id ≠ songID
  | _ => True

def NoSongData (s : Server) : Event → Prop
  | .request ip req => ∀ songID t, handle ip req s ≠ .ok (.songData songID) t
  | _ => True

theorem PhoneAt.admitted {clientID : Int} {ip : String} (roster : s.RosterAgrees)
    (phone : s.PhoneAt clientID ip) : s.admits clientID ip = true := by
  obtain ⟨r, listed, rfl, rfl, -⟩ := phone
  have single : (s.db.sessions.filter fun row => row.id = r.id) = [r] :=
    Tables.filter_key_eq roster.nodup listed
  have positive := (roster.numbered r listed).1
  unfold admits
  rw [single]
  simp only [List.all_cons, List.all_nil, beq_self_eq_true, Bool.and_true, List.length_singleton,
    decide_eq_true_eq]
  omega

def Phone (s : Server) (id : Int) : Prop :=
  ∀ session, s.sessionMap id = some session → session.clientType = .User

theorem PhoneAt.phone {clientID : Int} {ip : String} (roster : s.RosterAgrees)
    (phone : s.PhoneAt clientID ip) : s.Phone clientID := by
  obtain ⟨r, listed, rfl, -, user⟩ := phone
  intro session live
  obtain ⟨-, other, listed', same, type⟩ := roster.live r.id session live
  have eq := Tables.row_unique roster.nodup listed' listed same
  rw [← type, eq, user]

theorem alike_sendUpdate {id : Int} (phone : s.Phone id) (update : SessionUpdate) :
    Alike s (s.sendUpdate update id) := by
  apply Alike.of_map rfl
  intro other
  rw [sendUpdate_sessionMap]
  by_cases same : other = id
  · subst same
    rw [if_pos rfl]
    cases live : s.sessionMap other with
    | none => exact .same none
    | some session => exact .phone session (phone session live) _ _
  · rw [if_neg same]
    cases s.sessionMap other with
    | none => exact .same none
    | some session => exact .same (some session)

theorem phone_sendUpdate {id : Int} (phone : s.Phone id) (update : SessionUpdate) :
    (s.sendUpdate update id).Phone id := by
  intro session live
  rw [sendUpdate_sessionMap, if_pos rfl] at live
  obtain ⟨old, found, rfl⟩ := Option.map_eq_some_iff.mp live
  exact phone old found

theorem alike_registerRequest {id : Int} (phone : s.Phone id) (ch : Channel) :
    Alike s (finalState (registerRequest id ch s)) := by
  rw [registerRequest_apply]
  cases live : s.sessionMap id with
  | none => exact .refl s
  | some session =>
    apply Alike.of_map rfl
    intro other
    by_cases same : other = id
    · subst same
      simp only [finalState_ok, parked, Function.update_self, live]
      exact .phone session (phone session live) _ _
    · simp only [finalState_ok, parked, Function.update_of_ne same]
      exact .same _

theorem marked_eq {active : ActiveSong}
    (stopped : ∀ r ∈ s.db.songs, r.id = active.id → r.status = .Stopped) : s.marked active = s := by
  have songs : s.db.songs.map (fun r =>
      if r.id = active.id then { r with status := .Stopped } else r) = s.db.songs.map id := by
    apply List.map_congr_left
    intro r listed
    by_cases same : r.id = active.id
    · rw [if_pos same, ← stopped r listed same]
      rfl
    · rw [if_neg same]
      rfl
  unfold marked Database.setStatus
  rw [songs, List.map_id]

theorem stopped_of_marked {active : ActiveSong} (same : (s.marked active).db = s.db) :
    ∀ r ∈ s.db.songs, r.id = active.id → r.status = .Stopped := by
  have songs : s.db.songs.map (fun r =>
      if r.id = active.id then { r with status := .Stopped } else r) = s.db.songs.map id := by
    rw [List.map_id]
    exact congrArg Database.songs same
  intro r listed eq
  have row := List.map_inj_left.mp songs r listed
  rw [if_pos eq] at row
  exact (congrArg SongRow.status row).symm

theorem alike_report {id : Int} (phone : s.Phone id) {update : Option StatusUpdateMessage}
    (harmless : s.HarmlessReport update) : Alike s (finalState (speakerStatusUpdate id update s)) := by
  rw [speakerStatusUpdate_apply]
  by_cases negative : id < 0
  · rw [if_pos negative]
    exact .refl s
  rw [if_neg negative]
  rcases update with _ | ⟨songID, _ | status⟩
  · exact .refl s
  · exact .refl s
  cases status with
  | Paused => exact .refl s
  | Ready =>
    dsimp only
    rw [readyUpdate_apply]
    cases s.nextSong with
    | none => exact .refl s
    | some next => exact alike_sendUpdate phone _
  | Playing =>
    dsimp only
    rw [playingUpdate_apply]
    cases selected : s.nextSong with
    | none => exact .refl s
    | some next =>
      obtain ⟨other, current⟩ := harmless next selected
      dsimp only
      rw [if_neg other]
      cases running : s.activeSong with
      | none => exact .refl s
      | some active =>
        dsimp only
        by_cases same : songID = active.id
        · rw [if_pos same]
          exact .refl s
        · rw [if_neg same]
          -- the phone is corrected as a confused speaker would be
          have refreshed : s.refreshed active = s := by
            unfold Server.refreshed
            rw [(current active running).resolve_left same, ← running]
          have corrected := alike_sendUpdate phone (.upcoming_song active.toSong)
          have both := corrected.trans (alike_sendUpdate (phone_sendUpdate phone _)
            (.playback_command { command := .Stop, id := songID }))
          unfold Server.corrected
          rw [refreshed]
          exact both
  | Stopped =>
    dsimp only
    rw [stoppedUpdate_apply]
    cases running : s.activeSong with
    | none => exact .refl s
    | some active =>
      obtain ⟨stopped, dry⟩ := harmless active running
      dsimp only
      rw [marked_eq stopped]
      cases selected : s.nextSong with
      | some next => exact .refl s
      | none =>
        dsimp only
        rw [candidate_eq_none.mpr (dry selected)]
        exact .refl s

theorem harmless_of_alike {music : List MusicRow} (sound : s.Sound music) {id : Int} (valid : 0 ≤ id)
    {update : Option StatusUpdateMessage}
    (alike : Alike s (finalState (speakerStatusUpdate id update s))) : s.HarmlessReport update := by
  have kept : ∀ t, Alike s t → t.db = s.db ∧ t.nextSong = s.nextSong ∧ t.activeSong = s.activeSong ∧
      t.tasksCreated = s.tasksCreated := by
    intro t alike
    cases alike
    exact ⟨rfl, rfl, rfl, rfl⟩
  obtain ⟨db, next, active, tasks⟩ := kept _ alike
  clear alike kept
  rcases update with _ | ⟨songID, _ | status⟩
  · trivial
  · trivial
  cases status with
  | Paused => trivial
  | Ready => trivial
  | Playing =>
    intro song selected
    rw [speakerStatusUpdate_apply, if_neg (not_lt.mpr valid)] at next active tasks
    dsimp only at next active tasks
    have other : songID ≠ song.id := by
      intro expected
      subst expected
      by_cases accepted : s.accepts (selectionDelay song)
      · obtain ⟨t, completed, transition⟩ :=
          playing_started sound.agrees sound.positive selected accepted id
        rw [completed, finalState_ok, transition.unset, selected] at next
        cases next
      · -- a refused start has still replaced the timer task
        rw [playingUpdate_apply, selected] at tasks
        dsimp only at tasks
        rw [if_pos rfl, if_neg accepted, finalState_error, cancelSongTimerTask_eq] at tasks
        exact absurd tasks (Nat.succ_ne_self _)
    refine ⟨other, ?_⟩
    intro a running
    by_cases same : songID = a.id
    · exact Or.inl same
    · rw [playingUpdate_apply, selected, running] at active
      dsimp only at active
      rw [if_neg other, if_neg same] at active
      exact Or.inr (Option.some.inj active)
  | Stopped =>
    intro a running
    rw [speakerStatusUpdate_apply, if_neg (not_lt.mpr valid)] at db next
    dsimp only at db next
    rw [stoppedUpdate_apply, running] at db next
    dsimp only at db next
    cases selected : s.nextSong with
    | some song =>
      rw [selected] at db
      exact ⟨stopped_of_marked db, fun unset => by cases unset⟩
    | none =>
      rw [selected] at db next
      dsimp only at db next
      cases choice : (s.marked a).candidate with
      | some song =>
        rw [choice] at next
        cases next
      | none =>
        rw [choice] at db
        have stopped := stopped_of_marked db
        rw [marked_eq stopped] at choice
        exact ⟨stopped, fun _ => candidate_eq_none.mp choice⟩

theorem serve_statusUpdate {ip : String} {id : Int} (admitted : s.admits id ip = true)
    (update : Option StatusUpdateMessage) :
    s.serve (.request ip (.statusUpdate id update)) = finalState (speakerStatusUpdate id update s) := by
  rw [serve_eq, comesTo, requested, if_pos admitted]
  rfl

theorem serve_requestUpdate {ip : String} {id : Int} (admitted : s.admits id ip = true)
    (ch : Channel) :
    s.serve (.request ip (.requestUpdate id ch)) = finalState (registerRequest id ch s) := by
  rw [serve_eq, comesTo, requested, if_pos admitted]
  rfl

theorem requestSong_answer {ip : String} {id : Int} (admitted : s.admits id ip = true) (songID : Int)
    (readable : Bool) : handle ip (.requestSong id songID readable) s =
      match getSongData songID readable s with
      | .ok data t => .ok data t
      | .error e t => .ok (.error (orNotFound e)) t := by
  rw [handle, requestSong, validateSession_apply, if_pos admitted, catching]
  cases getSongData songID readable s <;> rfl

theorem noSongData_iff {music : List MusicRow} (sound : s.Sound music) {ip : String} {id : Int}
    (admitted : s.admits id ip = true) (songID : Int) (readable : Bool) :
    s.NoSongData (.request ip (.requestSong id songID readable)) ↔
      (readable = true → ∀ r ∈ s.db.songs, r.id ≠ songID) := by
  unfold NoSongData
  dsimp only
  rw [requestSong_answer admitted, getSongData_apply]
  by_cases negative : songID < 0
  · rw [if_pos negative]
    constructor
    · intro _ _ r listed same
      have positive := sound.positive r listed
      omega
    · intro _ _ _ eq
      cases eq
  · rw [if_neg negative]
    cases found : s.db.songs.find? (fun r => r.id = songID) with
    | none =>
      constructor
      · intro _ _ r listed
        simpa using List.find?_eq_none.mp found r listed
      · intro _ _ _ eq
        cases eq
    | some row =>
      have same : row.id = songID := by simpa using List.find?_some found
      cases readable with
      | false =>
        constructor
        · intro _ readable
          cases readable
        · intro _ _ _ eq
          cases eq
      | true =>
        constructor
        · intro refused
          exact absurd rfl (refused row.id s)
        · intro absent
          exact absurd same (absent rfl row (List.mem_of_find?_eq_some found))

theorem harmless_iff {music : List MusicRow} (sound : s.Sound music) {e : Event}
    (request : s.PhoneRequest e) : s.Harmless e ↔ Alike s (s.serve e) ∧ s.NoSongData e := by
  cases e with
  | request ip req =>
    cases req with
    | statusUpdate id update =>
      have admitted := request.admitted sound.roster
      have noData : s.NoSongData (.request ip (.statusUpdate id update)) := by
        intro songID t
        rw [handle, statusUpdate, validateSession_apply, if_pos admitted, catching]
        cases speakerStatusUpdate id update s <;> intro eq <;> cases eq
      have valid : 0 ≤ id := by
        obtain ⟨r, listed, rfl, -⟩ := request
        have positive := (sound.roster.numbered r listed).1
        omega
      rw [serve_statusUpdate admitted]
      constructor
      · intro harmless
        exact ⟨alike_report (request.phone sound.roster) harmless, noData⟩
      · intro both
        exact harmless_of_alike sound valid both.1
    | requestUpdate id ch =>
      have admitted := request.admitted sound.roster
      have noData : s.NoSongData (.request ip (.requestUpdate id ch)) := by
        intro songID t
        rw [handle, requestUpdate, validateSession_apply, if_pos admitted, catching]
        cases registerRequest id ch s <;> intro eq <;> cases eq
      rw [serve_requestUpdate admitted]
      exact iff_of_true trivial ⟨alike_registerRequest (request.phone sound.roster) ch, noData⟩
    | requestSong id songID readable =>
      have admitted := request.admitted sound.roster
      have unchanged : s.serve (.request ip (.requestSong id songID readable)) = s := by
        rw [serve_eq]
        rfl
      rw [unchanged, noSongData_iff sound admitted]
      exact ⟨fun harmless => ⟨.refl s, harmless⟩, fun both => both.2⟩
    | _ => cases request
  | _ => cases request

end Requests

section TwoRuns

/-- The music and the speakers cannot tell the two states apart. -/
structure Undisturbed (s t : Server) : Prop where
  activeSong : t.activeSong = s.activeSong
  nextSong : t.nextSong = s.nextSong
  songs : t.db.songs = s.db.songs
  speakers : ∀ id session, session.clientType = .Speaker →
    (s.sessionMap id = some session ↔ t.sessionMap id = some session)

theorem Alike.undisturbed (alike : Alike s t) : Undisturbed s t := by
  cases alike with
  | intro map sessions =>
    exact ⟨rfl, rfl, rfl, fun id session type => (sessions id).speaker type⟩

/-- Two runs that differ only in harmless requests of phones are the same for the
    speakers, whose sessions hold all that was ever handed or written to them, and
    no such request is answered with a song. -/
theorem harmless_phones_apart (music : List MusicRow) (clock : Nat) (events others : List Event)
    (differ : Differ serve (fun s e => s.PhoneRequest e ∧ s.Harmless e)
      (start music clock) events (start music clock) others) :
    Undisturbed (run serve (start music clock) events) (run serve (start music clock) others) ∧
    Differ serve (fun s e => s.PhoneRequest e ∧ s.NoSongData e)
      (start music clock) events (start music clock) others := by
  have sound := sound_start music clock
  constructor
  · apply Alike.undisturbed
    refine related_of_differ (fun s => s.Sound music) (fun _ e h => h.serve e)
      (fun _ _ _ first second => first.trans second) (fun _ _ alike => alike.symm)
      (fun _ _ e alike => alike_serve e alike) ?_ differ sound sound (.refl _)
    intro s e sound both
    exact ((harmless_iff sound both.1).mp both.2).1
  · refine differ.imp (fun s => s.Sound music) (fun _ e h => h.serve e) ?_ sound sound
    intro s e sound both
    exact ⟨both.1, ((harmless_iff sound both.1).mp both.2).2⟩

def partyOpened : List Event :=
  [.request "10.0.0.1" (.speakerAuthenticate (some "1234")),
   .request "10.0.0.2" (.clientAuthenticate (some "1234"))]

def oneSong : List MusicRow :=
  [{ song := "a", path := "a.mp3", artist := "b", album := "c", lengthOfSong := 200, art := none
     artType := none }]

def phoneReports (status : Status) : Event :=
  .request "10.0.0.2" (.statusUpdate 2 (some { id := 1, status := some status }))

theorem ready_phone_apart :
    Undisturbed (run serve (start oneSong 0) (partyOpened ++ [phoneReports .Ready]))
      (run serve (start oneSong 0) partyOpened) ∧
    Differ serve (fun s e => s.PhoneRequest e ∧ s.NoSongData e)
      (start oneSong 0) (partyOpened ++ [phoneReports .Ready]) (start oneSong 0) partyOpened :=
  harmless_phones_apart oneSong 0 _ _
    (.both _ (.both _ (.left _ ⟨by show PhoneAt _ _ _; decide +kernel, trivial⟩ (.done _ _))))

/-- A phone reports the selected song as playing, and the server starts it. -/
theorem phone_starts_song :
    ¬ ∀ (music : List MusicRow) (clock : Nat) (events others : List Event),
      Differ serve PhoneRequest (start music clock) events (start music clock) others →
      Undisturbed (run serve (start music clock) events) (run serve (start music clock) others) ∧
      Differ serve (fun s e => s.PhoneRequest e ∧ s.NoSongData e)
        (start music clock) events (start music clock) others := by
  intro claim
  have same := (claim oneSong 0 (partyOpened ++ [phoneReports .Playing]) partyOpened
    (.both _ (.both _ (.left _ (by show PhoneAt _ _ _; decide +kernel) (.done _ _))))).1.nextSong
  have selected : (run serve (start oneSong 0) partyOpened).nextSong.isSome = true := by
    decide +kernel
  rw [same] at selected
  revert selected
  decide +kernel

end TwoRuns

end Server
end MusicCloud

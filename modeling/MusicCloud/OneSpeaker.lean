import MusicCloud.NextSong
import MusicCloud.LongPolling

/-!
What each call means for one speaker: which updates its session is handed, and
what becomes of the active and the next song. `Effect` lists all that can happen.
-/
namespace MusicCloud

namespace Server

structure Tells (id : Int) (us : List SessionUpdate) (s t : Server) : Prop where
  session : t.sessionMap id = (s.sessionMap id).map (Session.sendUpdates s.isActive us)
  channels : t.closedChannels = s.closedChannels

def Selecting (s : Server) : Prop :=
  s.nextSong ≠ none ∨ ∃ task ∈ s.songTimer, task.action = .scheduleNextSong

def Stocked (s : Server) : Prop := 2 ≤ s.db.songs.length

/-- A call of a user, of the timer or of the environment, which leaves the session
    of the speaker and all channels alone. -/
def Foreign (id : Int) : Call → Bool
  | .authenticateSpeaker _ _ => false
  | .speakerStatusUpdate _ _ => false
  | .destroySession sessionID => sessionID ≠ id
  | .registerRequest sessionID _ => sessionID ≠ id
  | .channelClosed _ => false
  | _ => true

structure Unheard (id : Int) (s t : Server) : Prop where
  session : t.sessionMap id = s.sessionMap id
  rows : t.db.sessions = s.db.sessions
  channels : t.closedChannels = s.closedChannels
  songs : t.db.songs = s.db.songs
  active : t.activeID = s.activeID
  next : t.nextSong = s.nextSong
  timer : t.songTimer = s.songTimer

def statusReport (id songID : Int) (status : Status) : Call :=
  .speakerStatusUpdate id (some { id := songID, status := some status })

/-- What a call may do to a speaker and to the songs. -/
inductive Effect (id : Int) (c : Call) (s t : Server) : Prop
  | quiet (tells : Tells id [] s t) (active : t.activeID = s.activeID)
      (next : t.nextSong = s.nextSong) (selecting : s.Stocked → s.Selecting → t.Selecting)
  | selects (song : Song) (again : Nat)
      (tells : Tells id (List.replicate (again + 1) (.upcoming_song song)) s t)
      (active : t.activeID = s.activeID) (unset : s.nextSong = none) (next : t.nextSong = some song)
  | repeats (song : Song) (tells : Tells id [.upcoming_song song] s t)
      (active : t.activeID = s.activeID) (selected : s.nextSong = some song)
      (next : t.nextSong = some song)
  | plays (song : Song) (report : c = statusReport id song.id .Ready)
      (tells : Tells id [.playback_command { command := .Play, id := song.id }] s t)
      (active : t.activeID = s.activeID) (selected : s.nextSong = some song)
      (next : t.nextSong = some song)
  | stops (songID : Int) (task : TimerTask) (fires : c = .fireTask task) (scheduled : task ∈ s.songTimer)
      (stop : task.action = .stopActiveSong)
      (tells : Tells id [.playback_command { command := .Stop, id := songID }] s t)
      (active : t.activeID = s.activeID) (running : s.activeID = some songID)
      (next : t.nextSong = s.nextSong) (selecting : s.Stocked → s.Selecting → t.Selecting)
  | starts (song : Song) (own : c = statusReport id song.id .Playing) (tells : Tells id [] s t)
      (selected : s.nextSong = some song)
      (active : t.activeID = some song.id) (next : t.nextSong = none) (selecting : t.Selecting)

variable {id : Int} {s t : Server}

section Tells

theorem tells_of_same (session : t.sessionMap id = s.sessionMap id)
    (channels : t.closedChannels = s.closedChannels) : Tells id [] s t := by
  refine ⟨?_, channels⟩
  rw [session]
  cases s.sessionMap id <;> simp

theorem Tells.trans {u : Server} {us vs : List SessionUpdate} (first : Tells id us s t)
    (second : Tells id vs t u) : Tells id (us ++ vs) s u := by
  have channels : t.isActive = s.isActive := by
    funext ch
    unfold isActive
    rw [first.channels]
  refine ⟨?_, second.channels.trans first.channels⟩
  rw [second.session, first.session, channels, Option.map_map]
  congr 1
  funext session
  simp [Session.sendUpdates_append]

theorem tells_sendUpdate (u : SessionUpdate) (id : Int) (s : Server) :
    Tells id [u] s (s.sendUpdate u id) := by
  refine ⟨?_, rfl⟩
  rw [sendUpdate_sessionMap, if_pos rfl]

theorem tells_broadcastUpdate (u : SessionUpdate)
    (listed : (s.db.sessionIds .Speaker).count id = 1) :
    Tells id [u] s (s.broadcastUpdate u .Speaker) := by
  refine ⟨?_, rfl⟩
  rw [broadcastUpdate_sessionMap, listed]
  rfl

end Tells

section Unheard

theorem activeID_refreshed (s : Server) (active : ActiveSong) :
    (s.refreshed active).activeID = some active.id := by
  have same : (s.positioned active).toSong.id = active.toSong.id := by rw [positioned_toSong]
  exact congrArg some same

theorem Unheard.refl (id : Int) (s : Server) : Unheard id s s := ⟨rfl, rfl, rfl, rfl, rfl, rfl, rfl⟩

theorem Unheard.trans {u : Server} (first : Unheard id s t) (second : Unheard id t u) :
    Unheard id s u := by
  constructor
  · exact second.session.trans first.session
  · exact second.rows.trans first.rows
  · exact second.channels.trans first.channels
  · exact second.songs.trans first.songs
  · exact second.active.trans first.active
  · exact second.next.trans first.next
  · exact second.timer.trans first.timer

theorem Unheard.sessionIds (h : Unheard id s t) (type : SessionType) :
    t.db.sessionIds type = s.db.sessionIds type := by
  unfold Database.sessionIds
  rw [h.rows]

theorem Unheard.tells (h : Unheard id s t) : Tells id [] s t := tells_of_same h.session h.channels

theorem Unheard.selecting (h : Unheard id s t) : t.Selecting ↔ s.Selecting := by
  unfold Selecting
  rw [h.next, h.timer]

theorem Unheard.effect (h : Unheard id s t) (c : Call) : Effect id c s t :=
  .quiet h.tells h.active h.next fun _ => h.selecting.mpr

theorem Effect.after {c : Call} {u : Server} (effect : Effect id c s t) (tells : Tells id [] u s)
    (active : s.activeID = u.activeID) (next : s.nextSong = u.nextSong)
    (songs : s.db.songs = u.db.songs) (timer : ∀ task ∈ s.songTimer, task ∈ u.songTimer)
    (selecting : u.Stocked → u.Selecting → s.Selecting ∨ t.Selecting) : Effect id c u t := by
  have told : ∀ {us : List SessionUpdate}, Tells id us s t → Tells id us u t :=
    fun later => tells.trans later
  have selects : (s.Stocked → s.Selecting → t.Selecting) → u.Stocked → u.Selecting → t.Selecting := by
    intro later stocked before
    rcases selecting stocked before with between | after
    · apply later _ between
      unfold Stocked
      rw [songs]
      exact stocked
    · exact after
  cases effect with
  | quiet tells active' next' selecting' =>
    exact .quiet (told tells) (active'.trans active) (next'.trans next) (selects selecting')
  | selects song again tells active' unset next' =>
    exact .selects song again (told tells) (active'.trans active) (next.symm.trans unset) next'
  | repeats song tells active' selected next' =>
    exact .repeats song (told tells) (active'.trans active) (next.symm.trans selected) next'
  | plays song report tells active' selected next' =>
    exact .plays song report (told tells) (active'.trans active) (next.symm.trans selected) next'
  | stops songID task fires scheduled stop tells active' running next' selecting' =>
    exact .stops songID task fires (timer task scheduled) stop (told tells) (active'.trans active)
      (active.symm.trans running) (next'.trans next) (selects selecting')
  | starts song own tells selected active' next' selecting' =>
    exact .starts song own (told tells) (next.symm.trans selected) active' next' selecting'

theorem Unheard.then {c : Call} {u : Server} (h : Unheard id s t) (effect : Effect id c t u) :
    Effect id c s u := by
  apply effect.after h.tells h.active h.next h.songs
  · intro task scheduled
    rw [← h.timer]
    exact scheduled
  · intro _ before
    exact Or.inl (h.selecting.mpr before)

theorem unheard_users (unlisted : (s.db.sessionIds .User).count id = 0) (u : SessionUpdate) :
    Unheard id s (s.broadcastUpdate u .User) :=
  ⟨broadcastUpdate_unlisted u unlisted, rfl, rfl, rfl, rfl, rfl, rfl⟩

variable (agrees : s.playback.Agrees)
include agrees

theorem unheard_getActiveSong (id : Int) : Unheard id s (finalState (getActiveSong s)) := by
  rcases getActiveSong_cases agrees with ⟨active, running, eq⟩ | ⟨-, eq⟩
  · rw [eq]
    refine ⟨rfl, rfl, rfl, rfl, ?_, rfl, rfl⟩
    rw [finalState_ok, activeID_refreshed, activeID, running]
    rfl
  · rw [eq]
    exact .refl id s

theorem unheard_getStats (id : Int) : Unheard id s (finalState (getStats s)) := by
  have found := unheard_getActiveSong agrees id
  rw [getStats_apply]
  generalize getActiveSong s = result at found ⊢
  cases result with
  | error e t => exact found
  | ok active t =>
    dsimp only
    cases likeData t.db active.id <;> exact found

theorem unheard_stats (unlisted : (s.db.sessionIds .User).count id = 0) {stats : LikeData}
    {t : Server} (counted : getStats s = .ok stats t) :
    Unheard id s (t.broadcastUpdate (.likes stats) .User) := by
  have heard := unheard_getStats agrees id
  rw [counted, finalState_ok] at heard
  apply heard.trans
  apply unheard_users
  rw [heard.sessionIds]
  exact unlisted

theorem unheard_like (unlisted : (s.db.sessionIds .User).count id = 0) (songID sessionID : Int) :
    Unheard id s (s.call (.like songID sessionID)) := by
  rw [call, like_apply]
  split
  · exact Unheard.refl id s
  · have stored : Unheard id s (s.reacted sessionID songID 1) := ⟨rfl, rfl, rfl, rfl, rfl, rfl, rfl⟩
    have still : (s.reacted sessionID songID 1).playback.Agrees := agrees
    have counting := unheard_getStats still id
    cases counted : getStats (s.reacted sessionID songID 1) with
    | error e t =>
      rw [counted] at counting
      exact stored.trans counting
    | ok stats t => exact stored.trans (unheard_stats still unlisted counted)

end Unheard

section Selection
variable (agrees : s.playback.Agrees)
include agrees

theorem candidate_of_stocked (stocked : s.Stocked) : s.candidate ≠ none := by
  intro none
  have running : ∀ r ∈ s.db.songs, r.status ≠ .Inactive := by
    rw [candidate, Option.map_eq_none_iff, List.head?_eq_none_iff] at none
    exact Database.nextSongQuery_eq_nil.mp none
  have rows := congrArg List.length agrees.active_rows
  have all : s.playback.songs.filter (fun r => r.status ≠ .Inactive) = s.db.songs :=
    List.filter_eq_self.mpr fun r hr => by simpa using running r hr
  rw [all, List.length_map] at rows
  have one : (s.playback.activeSong.map Song.id).toList.length ≤ 1 := by
    cases s.playback.activeSong <;> simp
  unfold Stocked at stocked
  omega

theorem effect_skipToNext (c : Call) (listed : (s.db.sessionIds .Speaker).count id = 1) :
    Effect id c s (finalState (skipToNext s)) := by
  rw [skipToNext_apply]
  cases next : s.nextSong with
  | some song => exact (Unheard.refl id s).effect c
  | none =>
    simp only [Option.isSome_none, Bool.false_eq_true, if_false]
    have cleared : Tells id [] s s.cleared := by
      rw [cleared, cancelSongTimerTask_eq]
      exact tells_of_same rfl rfl
    cases choice : s.candidate with
    | none =>
      refine .quiet cleared ?_ ?_ fun stocked _ => absurd choice (candidate_of_stocked agrees stocked)
      · simp [activeID, Server.cleared, cancelSongTimerTask_eq]
      · simp [Server.cleared, cancelSongTimerTask_eq]
    | some song =>
      have chosen : Tells id [] s.cleared (s.cleared.selected song) := tells_of_same rfl rfl
      have rows : ((s.cleared.selected song).db.sessionIds .Speaker).count id = 1 := by
        simpa [Server.cleared, Server.selected, cancelSongTimerTask_eq] using listed
      have first : Tells id [.upcoming_song song] (s.cleared.selected song) _ :=
        tells_broadcastUpdate _ rows
      have again : Tells id [.upcoming_song song] _ (s.skippedTo song) :=
        tells_broadcastUpdate (s := (s.cleared.selected song).broadcastUpdate (.upcoming_song song)
          .Speaker) _ rows
      have skipped := cleared.trans (chosen.trans (first.trans again))
      have active : (s.skippedTo song).activeID = s.activeID := by
        simp [activeID, skippedTo, Server.cleared, Server.selected, broadcastUpdate,
          cancelSongTimerTask_eq]
      have unset : (s.skippedTo song).nextSong = some song := rfl
      dsimp only
      generalize s.skippedTo song = t at skipped active unset ⊢
      split
      · exact .selects song 1 (skipped.trans (tells_of_same rfl rfl)) active next unset
      · exact .selects song 1 (skipped.trans (tells_of_same rfl rfl)) active next unset

omit agrees in
theorem effect_select (c : Call) {song : Song} (unset : s.nextSong = none)
    (listed : (s.db.sessionIds .Speaker).count id = 1) :
    Effect id c s ((s.selected song).broadcastUpdate (.upcoming_song song) .Speaker) := by
  have chosen : Tells id [] s (s.selected song) := tells_of_same rfl rfl
  have told := tells_broadcastUpdate (s := s.selected song) (.upcoming_song song) listed
  exact .selects song 0 (chosen.trans told) rfl unset rfl

end Selection

section Timer

def taken (s : Server) (task : TimerTask) : Server := { s with songTimer := s.songTimer.erase task }

variable (agrees : s.playback.Agrees) (listed : (s.db.sessionIds .Speaker).count id = 1)
include agrees listed

theorem effect_scheduleNextSong (c : Call) :
    Effect id c s (finalState (runTask .scheduleNextSong s)) := by
  rw [runTask_scheduleNextSong, scheduleNextSong_apply]
  cases next : s.nextSong with
  | some song =>
    have selecting : ∀ t : Server, t.nextSong = s.nextSong → s.Stocked → s.Selecting → t.Selecting := by
      intro t same _ _
      left
      rw [same, next]
      exact Option.some_ne_none song
    dsimp only
    split
    · exact .quiet (tells_of_same rfl rfl) rfl rfl (selecting _ rfl)
    · exact .quiet (tells_of_same rfl rfl) rfl rfl (selecting _ rfl)
  | none =>
    cases choice : s.candidate with
    | none =>
      exact .quiet (tells_of_same rfl rfl) rfl rfl fun stocked _ =>
        absurd choice (candidate_of_stocked agrees stocked)
    | some song =>
      have chosen : Tells id [] s (s.selected song) := tells_of_same rfl rfl
      have told := chosen.trans (tells_broadcastUpdate (s := s.selected song) (.upcoming_song song) listed)
      dsimp only
      split
      · exact .selects song 0 (told.trans (tells_of_same rfl rfl)) rfl next rfl
      · exact .selects song 0 (told.trans (tells_of_same rfl rfl)) rfl next rfl

theorem effect_rebroadcastNextSong (c : Call) :
    Effect id c s (finalState (runTask .rebroadcastNextSong s)) := by
  rw [runTask_rebroadcastNextSong, getNextSong_apply]
  cases next : s.nextSong with
  | some song => exact .repeats song (tells_broadcastUpdate _ listed) rfl next next
  | none =>
    cases choice : s.candidate with
    | none =>
      exact .quiet (tells_of_same rfl rfl) rfl rfl fun stocked _ =>
        absurd choice (candidate_of_stocked agrees stocked)
    | some song => exact effect_select c next listed

omit listed in
theorem runTask_stopActiveSong_cases :
    (∃ active, s.activeSong = some active ∧ finalState (runTask .stopActiveSong s) =
      (s.refreshed active).broadcastUpdate
        (.playback_command { command := .Stop, id := active.id }) .Speaker) ∨
    (s.activeSong = none ∧ finalState (runTask .stopActiveSong s) = s) := by
  rw [runTask_stopActiveSong]
  rcases getActiveSong_cases agrees with ⟨active, running, eq⟩ | ⟨idle, eq⟩
  · left
    refine ⟨active, running, ?_⟩
    rw [eq, ← positioned_toSong s active]
    rfl
  · right
    rw [eq]
    exact ⟨idle, rfl⟩

theorem effect_stopActiveSong {task : TimerTask} (scheduled : task ∈ s.songTimer)
    (stop : task.action = .stopActiveSong) :
    Effect id (.fireTask task) s (s.call (.fireTask task)) := by
  have selecting : ∀ t : Server, t.nextSong = s.nextSong → t.songTimer = s.songTimer.erase task →
      s.Selecting → t.Selecting := by
    rintro t next timer (selected | ⟨other, waiting, selects⟩)
    · left
      rw [next]
      exact selected
    · right
      refine ⟨other, ?_, selects⟩
      rw [timer]
      apply (List.mem_erase_of_ne ?_).mpr waiting
      rintro rfl
      rw [stop] at selects
      cases selects
  have fired : s.call (.fireTask task) = finalState (runTask .stopActiveSong (s.taken task)) := by
    rw [call, fireTask, if_pos scheduled, stop]
    rfl
  rw [fired]
  have taken : Tells id [] s (s.taken task) := tells_of_same rfl rfl
  have still : (s.taken task).playback.Agrees := agrees
  rcases runTask_stopActiveSong_cases still with ⟨active, running, eq⟩ | ⟨-, eq⟩
  · rw [eq]
    have refreshed : Tells id [] (s.taken task) ((s.taken task).refreshed active) :=
      tells_of_same rfl rfl
    have told := tells_broadcastUpdate (s := (s.taken task).refreshed active)
      (.playback_command { command := .Stop, id := active.id }) listed
    have named : s.activeID = some active.id := by
      have same : s.activeSong = some active := running
      simp [activeID, same]
    have after := activeID_refreshed (s.taken task) active
    refine .stops active.id task rfl scheduled stop (taken.trans (refreshed.trans told))
      (after.trans named.symm) named rfl ?_
    intro _
    exact selecting _ rfl rfl
  · rw [eq]
    exact .quiet taken rfl rfl fun _ => selecting _ rfl rfl

omit listed in
theorem selecting_runTask (stocked : s.Stocked) {action : TaskAction}
    (selects : action ≠ .stopActiveSong) : (finalState (runTask action s)).Selecting := by
  have chosen := candidate_of_stocked agrees stocked
  left
  cases action with
  | stopActiveSong => exact absurd rfl selects
  | scheduleNextSong =>
    rw [runTask_scheduleNextSong, scheduleNextSong_apply]
    cases next : s.nextSong with
    | some song =>
      dsimp only
      split
      · exact next ▸ Option.some_ne_none song
      · exact next ▸ Option.some_ne_none song
    | none =>
      cases choice : s.candidate with
      | none => exact absurd choice chosen
      | some song =>
        dsimp only
        split
        · exact Option.some_ne_none song
        · exact Option.some_ne_none song
  | rebroadcastNextSong =>
    rw [runTask_rebroadcastNextSong, getNextSong_apply]
    cases next : s.nextSong with
    | some song =>
      change s.nextSong ≠ none
      rw [next]
      exact Option.some_ne_none song
    | none =>
      cases choice : s.candidate with
      | none => exact absurd choice chosen
      | some song => exact Option.some_ne_none song

theorem effect_fireTask (task : TimerTask) :
    Effect id (.fireTask task) s (s.call (.fireTask task)) := by
  by_cases scheduled : task ∈ s.songTimer
  · by_cases stop : task.action = .stopActiveSong
    · exact effect_stopActiveSong agrees listed scheduled stop
    · have fired : s.call (.fireTask task) = finalState (runTask task.action (s.taken task)) := by
        rw [call, fireTask, if_pos scheduled]
        rfl
      have still : (s.taken task).playback.Agrees := agrees
      have effect : Effect id (.fireTask task) (s.taken task) (s.call (.fireTask task)) := by
        rw [fired]
        cases action : task.action with
        | stopActiveSong => exact absurd action stop
        | scheduleNextSong => exact effect_scheduleNextSong still listed _
        | rebroadcastNextSong => exact effect_rebroadcastNextSong still listed _
      have taken : Tells id [] s (s.taken task) := tells_of_same rfl rfl
      apply effect.after taken rfl rfl rfl
      · intro other waiting
        exact List.mem_of_mem_erase waiting
      · intro stocked _
        right
        rw [fired]
        exact selecting_runTask still stocked stop
  · rw [call, fireTask, if_neg scheduled]
    exact (Unheard.refl id s).effect _

end Timer

section Calls

variable (agrees : s.playback.Agrees) (roster : s.RosterAgrees) (speaker : s.isSpeaker id)
include roster speaker

theorem unlisted_user : (s.db.sessionIds .User).count id = 0 := by
  obtain ⟨session, live, type⟩ := speaker
  rw [roster.count_sessionIds live, type]
  rfl

theorem listed_speaker : (s.db.sessionIds .Speaker).count id = 1 := by
  obtain ⟨session, live, type⟩ := speaker
  rw [roster.count_sessionIds live, type]
  rfl

include agrees

theorem effect_like (songID sessionID : Int) :
    Effect id (.like songID sessionID) s (s.call (.like songID sessionID)) :=
  (unheard_like agrees (unlisted_user roster speaker) songID sessionID).effect _

theorem effect_dislike (songID sessionID : Int) :
    Effect id (.dislike songID sessionID) s (s.call (.dislike songID sessionID)) := by
  have unlisted := unlisted_user roster speaker
  have listed := listed_speaker roster speaker
  rw [call, dislike_apply]
  split
  · exact (Unheard.refl id s).effect _
  · have stored : Unheard id s (s.reacted sessionID songID (-1)) :=
      ⟨rfl, rfl, rfl, rfl, rfl, rfl, rfl⟩
    have still : (s.reacted sessionID songID (-1)).playback.Agrees := agrees
    have counting := unheard_getStats still id
    have acts := acts_getStats none still
    cases counted : getStats (s.reacted sessionID songID (-1)) with
    | error e t =>
      rw [counted] at counting
      exact (stored.trans counting).effect _
    | ok stats t =>
      rw [counted, finalState_ok] at acts
      have shown := stored.trans (unheard_stats still unlisted counted)
      have after : t.playback.Agrees := agrees_of_acts acts still
      dsimp only
      split
      · apply shown.then
        apply effect_skipToNext
        · exact after
        · rw [shown.sessionIds]
          exact listed
      · exact shown.effect _

/-- All that a call of others can do to the speaker. -/
theorem effect_call {c : Call} (foreign : Foreign id c = true) : Effect id c s (s.call c) := by
  have unlisted := unlisted_user roster speaker
  cases c with
  | authenticateUser pin ip =>
    rw [call, clientAuthenticate_apply]
    cases pin with
    | none => exact (Unheard.refl id s).effect _
    | some pin =>
      dsimp only
      split
      · obtain ⟨session, live, -⟩ := speaker
        obtain ⟨-, r, hr, named, -⟩ := roster.live id session live
        have old : id ≠ s.db.sessionSequence + 1 := by
          have := (roster.numbered r hr).2
          omega
        refine .quiet (tells_of_same ?_ rfl) rfl rfl fun _ before => before
        exact Function.update_of_ne old _ _
      · exact (Unheard.refl id s).effect _
  | authenticateSpeaker pin ip => cases foreign
  | destroySession sessionID =>
    have other : id ≠ sessionID := Ne.symm (of_decide_eq_true foreign)
    rw [call, destroySession_apply]
    split
    · exact (Unheard.refl id s).effect _
    · refine .quiet (tells_of_same ?_ rfl) rfl rfl fun _ before => before
      exact Function.update_of_ne other _ _
  | vote songID sessionID =>
    rw [call, vote_apply]
    split
    · exact (Unheard.refl id s).effect _
    · have stored : Unheard id s { s with db := s.db.insertVote sessionID songID } :=
        ⟨rfl, rfl, rfl, rfl, rfl, rfl, rfl⟩
      have rows : (({ s with db := s.db.insertVote sessionID songID } : Server).db.sessionIds
        .User).count id = 0 := unlisted
      exact (stored.trans (unheard_users rows _)).effect _
  | like songID sessionID => exact effect_like agrees roster speaker songID sessionID
  | dislike songID sessionID => exact effect_dislike agrees roster speaker songID sessionID
  | getActiveSong => exact (unheard_getActiveSong agrees id).effect _
  | getStats => exact (unheard_getStats agrees id).effect _
  | registerRequest sessionID ch =>
    have other : id ≠ sessionID := Ne.symm (of_decide_eq_true foreign)
    rw [call, registerRequest_apply]
    cases s.sessionMap sessionID with
    | none => exact (Unheard.refl id s).effect _
    | some session =>
      refine .quiet (tells_of_same ?_ rfl) rfl rfl fun _ before => before
      exact Function.update_of_ne other _ _
  | speakerStatusUpdate sessionID update => cases foreign
  | fireTask task => exact effect_fireTask agrees (listed_speaker roster speaker) task
  | channelClosed ch => cases foreign
  | clockAdvanced ms => exact .quiet (tells_of_same rfl rfl) rfl rfl fun _ before => before
  | rescanned rank => exact .quiet (tells_of_same rfl rfl) rfl rfl fun _ before => before

end Calls

section Reports
variable (agrees : s.playback.Agrees) (roster : s.RosterAgrees) (speaker : s.isSpeaker id)

def reported (s : Server) (id songID : Int) (status : Status) : Server :=
  s.call (.speakerStatusUpdate id (some { id := songID, status := some status }))

include roster speaker in
theorem valid_speaker : 0 ≤ id := by
  obtain ⟨session, live, -⟩ := speaker
  obtain ⟨-, r, hr, named, -⟩ := roster.live id session live
  have := (roster.numbered r hr).1
  omega

theorem reported_eq (valid : 0 ≤ id) (songID : Int) (status : Status) : s.reported id songID status =
    match status with
      | .Playing => finalState (playingUpdate id songID s)
      | .Stopped => finalState (stoppedUpdate id s)
      | .Ready => finalState (readyUpdate id songID s)
      | .Paused => s := by
  rw [reported, call, speakerStatusUpdate_apply, if_neg (not_lt.mpr valid)]
  cases status <;> rfl

include roster speaker

theorem ready_plays {song : Song} (selected : s.nextSong = some song) :
    Tells id [.playback_command { command := .Play, id := song.id }] s
      (s.reported id song.id .Ready) := by
  rw [reported_eq (valid_speaker roster speaker)]
  dsimp only
  rw [readyUpdate_apply, selected]
  dsimp only
  rw [if_pos rfl]
  exact tells_sendUpdate _ id s

theorem effect_ready (songID : Int) :
    Effect id (statusReport id songID .Ready) s (s.reported id songID .Ready) := by
  cases selected : s.nextSong with
  | none =>
    rw [reported_eq (valid_speaker roster speaker)]
    dsimp only
    rw [readyUpdate_apply, selected]
    exact (Unheard.refl id s).effect _
  | some song =>
    by_cases expected : songID = song.id
    · have told := ready_plays roster speaker selected
      rw [expected]
      refine .plays song rfl told ?_ selected ?_
      · rw [reported_eq (valid_speaker roster speaker)]
        dsimp only
        rw [readyUpdate_apply, selected]
        rfl
      · rw [reported_eq (valid_speaker roster speaker)]
        dsimp only
        rw [readyUpdate_apply, selected]
        exact selected
    · rw [reported_eq (valid_speaker roster speaker)]
      dsimp only
      rw [readyUpdate_apply, selected]
      dsimp only
      rw [if_neg expected]
      exact .repeats song (tells_sendUpdate _ id s) rfl selected selected

theorem effect_stopped (c : Call) (songID : Int) :
    Effect id c s (s.reported id songID .Stopped) := by
  rw [reported_eq (valid_speaker roster speaker)]
  dsimp only
  rw [stoppedUpdate_apply]
  cases running : s.activeSong with
  | none => exact (Unheard.refl id s).effect c
  | some active =>
    have marked : Tells id [] s (s.marked active) := tells_of_same rfl rfl
    cases next : s.nextSong with
    | some song => exact .quiet marked rfl rfl fun _ before => before
    | none =>
      dsimp only
      cases (s.marked active).candidate with
      | none => exact .quiet marked rfl rfl fun _ before => before
      | some song =>
        have chosen : Tells id [] (s.marked active) ((s.marked active).selected song) :=
          tells_of_same rfl rfl
        have told := tells_sendUpdate (.upcoming_song song) id ((s.marked active).selected song)
        exact .selects song 0 (marked.trans (chosen.trans told)) rfl next rfl

include agrees

theorem playing_starts (positive : ∀ r ∈ s.db.songs, 0 < r.id) {song : Song}
    (selected : s.nextSong = some song) (accepted : s.accepts (selectionDelay song)) :
    (s.reported id song.id .Playing).nextSong = none ∧
      Effect id (statusReport id song.id .Playing) s (s.reported id song.id .Playing) := by
  obtain ⟨sessionMap, current, ⟨same, -⟩, rest, told⟩ :=
    playing_announced agrees positive selected accepted id
  rw [reported_eq (valid_speaker roster speaker)]
  dsimp only
  rw [told, finalState_ok]
  refine ⟨rfl, .starts song rfl (tells_of_same ?_ ?_) selected ?_ rfl (Or.inr ?_)⟩
  · exact rest id (unlisted_user roster speaker)
  · simp [playbackUpdated, started, scheduled, renewed, cancelSongTimerTask_eq]
  · simp [activeID, same]
  · refine ⟨{ id := s.tasksCreated, action := .scheduleNextSong }, ?_, rfl⟩
    simp [playbackUpdated, started, scheduled]

theorem effect_playing (positive : ∀ r ∈ s.db.songs, 0 < r.id) {song : Song}
    (selected : s.nextSong = some song) :
    Effect id (statusReport id song.id .Playing) s (s.reported id song.id .Playing) := by
  by_cases accepted : s.accepts (selectionDelay song)
  · exact (playing_starts agrees roster speaker positive selected accepted).2
  · rw [reported_eq (valid_speaker roster speaker)]
    dsimp only
    rw [playingUpdate_apply, selected]
    dsimp only
    rw [if_pos rfl, if_neg accepted, finalState_error, cancelSongTimerTask_eq]
    refine .quiet (tells_of_same rfl rfl) rfl rfl fun _ _ => Or.inl ?_
    change s.nextSong ≠ none
    rw [selected]
    exact Option.some_ne_none song

end Reports

end Server
end MusicCloud

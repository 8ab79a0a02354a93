import MusicCloud.Mirrors
import MusicCloud.OneSpeaker
import MusicCloud.Effects
import MusicCloud.UpdateTexts

/-!
What a call tells the session of a user. The phones are told the votes, the active song and
the balance of the reactions; what they are told leads from what the server had before the
call to what it has after it. A user session that posts reports is sent what a speaker is
sent, which tells a phone nothing.
-/
namespace MusicCloud
open Mirrors

def countOf (vs : List VoteData) (songID : Int) : Option Int :=
  (vs.find? fun v => v.id = songID).map VoteData.votes

namespace SessionUpdate

def votesTold : SessionUpdate → Option (Int → Option Int)
  | .votes vs => some (countOf vs)
  | _ => none

def songTold : SessionUpdate → Option Int
  | .current_song song => some song.id
  | _ => none

def balanceTold : SessionUpdate → Option ℚ
  | .likes l => some (toDouble l.balance)
  | _ => none

def forSpeakers : SessionUpdate → Bool
  | .upcoming_song _ => true
  | .playback_command _ => true
  | _ => false

structure Silent (u : SessionUpdate) : Prop where
  votes : u.votesTold = none
  song : u.songTold = none
  balance : u.balanceTold = none
  noList : getUpdateType u ≠ .song_list

theorem tells_phone_nothing {u : SessionUpdate} (speakers : u.forSpeakers) : u.Silent := by
  cases u with
  | upcoming_song song => exact ⟨rfl, rfl, rfl, by simp [getUpdateType]⟩
  | playback_command command => exact ⟨rfl, rfl, rfl, by simp [getUpdateType]⟩
  | _ => cases speakers

end SessionUpdate

namespace Server

def stats (s : Server) : Option LikeData :=
  match getStats s with
  | .ok stats _ => some stats
  | .error _ _ => none

def votesNow (s : Server) : Option (Int → Option Int) := some (countOf s.db.getVotes)

def balanceNow (s : Server) : Option ℚ := s.stats.map fun l => toDouble l.balance

/-- The session is told these updates; they tell what has changed. -/
structure Informs (id : Int) (us : List SessionUpdate) (s t : Server) : Prop where
  tells : Tells id us s t
  votes : Leads SessionUpdate.votesTold us s.votesNow t.votesNow
  song : Leads SessionUpdate.songTold us s.activeID t.activeID
  balance : Leads SessionUpdate.balanceTold us s.balanceNow t.balanceNow
  songs : t.db.songs.map SongRow.id = s.db.songs.map SongRow.id
  library : ∀ vs, .votes vs ∈ us → vs.map VoteData.id = s.db.songs.map SongRow.id
  noList : ∀ u ∈ us, getUpdateType u ≠ .song_list

structure Hushed (id : Int) (s t : Server) : Prop where
  told : ∃ us, (∀ u ∈ us, u.forSpeakers) ∧ Tells id us s t
  rows : t.db.sessions = s.db.sessions

structure Untold (s t : Server) : Prop where
  votes : t.db.votes = s.db.votes
  likes : t.db.likes = s.db.likes
  active : t.activeID = s.activeID
  songs : t.db.songs.map SongRow.id = s.db.songs.map SongRow.id

/-- The call neither ends the session nor opens or closes a long poll of it. -/
def Elsewhere (id : Int) : Call → Bool
  | .destroySession sessionID => sessionID ≠ id
  | .registerRequest sessionID _ => sessionID ≠ id
  | .channelClosed _ => false
  | _ => true

variable {id : Int} {s t : Server}

section Hushed

theorem hushed_same (session : t.sessionMap id = s.sessionMap id)
    (channels : t.closedChannels = s.closedChannels) (rows : t.db.sessions = s.db.sessions) :
    Hushed id s t :=
  ⟨⟨[], by simp, tells_of_same session channels⟩, rows⟩

theorem Hushed.refl (id : Int) (s : Server) : Hushed id s s := hushed_same rfl rfl rfl

theorem Hushed.trans {u : Server} (first : Hushed id s t) (second : Hushed id t u) : Hushed id s u := by
  obtain ⟨us, ours, told⟩ := first.told
  obtain ⟨vs, theirs, later⟩ := second.told
  refine ⟨⟨us ++ vs, ?_, told.trans later⟩, second.rows.trans first.rows⟩
  intro u listed
  rcases List.mem_append.mp listed with before | after
  · exact ours u before
  · exact theirs u after

theorem hushed_send {u : SessionUpdate} (speakers : u.forSpeakers) (target : Int) :
    Hushed id s (s.sendUpdate u target) := by
  refine ⟨⟨if id = target then [u] else [], ?_, sendUpdate_sessionMap u target s id, rfl⟩, rfl⟩
  intro v listed
  split at listed
  · rw [List.mem_singleton.mp listed]
    exact speakers
  · cases listed

theorem Hushed.still_unlisted (h : Hushed id s t) (before : (s.db.sessionIds .Speaker).count id = 0) :
    (t.db.sessionIds .Speaker).count id = 0 := by
  unfold Database.sessionIds
  rw [h.rows]
  exact before

variable (unlisted : (s.db.sessionIds .Speaker).count id = 0)
include unlisted

theorem hushed_broadcast (u : SessionUpdate) : Hushed id s (s.broadcastUpdate u .Speaker) :=
  hushed_same (broadcastUpdate_unlisted u unlisted) rfl rfl

theorem hushed_selected (song : Song) :
    Hushed id s ((s.selected song).broadcastUpdate (.upcoming_song song) .Speaker) := by
  have chosen : Hushed id s (s.selected song) := hushed_same rfl rfl rfl
  exact chosen.trans (hushed_broadcast (chosen.still_unlisted unlisted) _)

theorem hushed_scheduleNextSong : Hushed id s (finalState (scheduleNextSong s)) := by
  rw [scheduleNextSong_apply]
  cases s.nextSong with
  | some song => exact .refl id s
  | none =>
    cases s.candidate with
    | none => exact .refl id s
    | some song => exact hushed_selected unlisted song

theorem hushed_skipToNext : Hushed id s (finalState (skipToNext s)) := by
  have cleared : Hushed id s s.cleared := by
    rw [Server.cleared, cancelSongTimerTask_eq]
    exact hushed_same rfl rfl rfl
  rw [skipToNext_apply]
  cases s.nextSong with
  | some song => exact .refl id s
  | none =>
    simp only [Option.isSome_none, Bool.false_eq_true, if_false]
    cases s.candidate with
    | none => exact cleared
    | some song =>
      have first := hushed_selected (cleared.still_unlisted unlisted) song
      have again : Hushed id _ (s.skippedTo song) :=
        hushed_broadcast ((cleared.trans first).still_unlisted unlisted) (.upcoming_song song)
      have skipped := (cleared.trans first).trans again
      dsimp only
      split
      · exact skipped.trans (hushed_same rfl rfl rfl)
      · exact skipped.trans (hushed_same rfl rfl rfl)

variable (agrees : s.playback.Agrees)
include agrees

theorem hushed_runTask (action : TaskAction) : Hushed id s (finalState (runTask action s)) := by
  cases action with
  | scheduleNextSong =>
    have chosen := hushed_scheduleNextSong unlisted
    rw [runTask_scheduleNextSong]
    generalize scheduleNextSong s = result at chosen ⊢
    cases result with
    | error e t => exact chosen
    | ok a t =>
      dsimp only
      split
      · exact chosen.trans (hushed_same rfl rfl rfl)
      · exact chosen.trans (hushed_same rfl rfl rfl)
  | rebroadcastNextSong =>
    rw [runTask_rebroadcastNextSong, getNextSong_apply]
    cases s.nextSong with
    | some song => exact hushed_broadcast unlisted _
    | none =>
      cases s.candidate with
      | none => exact .refl id s
      | some song => exact hushed_selected unlisted song
  | stopActiveSong =>
    rcases runTask_stopActiveSong_cases agrees with ⟨active, -, eq⟩ | ⟨-, eq⟩
    · rw [eq]
      have refreshed : Hushed id s (s.refreshed active) := hushed_same rfl rfl rfl
      exact refreshed.trans (hushed_broadcast (refreshed.still_unlisted unlisted) _)
    · rw [eq]
      exact .refl id s

theorem hushed_newSpeakerAuthenticated (sessionID : Int) :
    Hushed id s (finalState (newSpeakerAuthenticated sessionID s)) := by
  rw [newSpeakerAuthenticated_apply]
  rcases getActiveSong_cases agrees with ⟨active, -, eq⟩ | ⟨-, eq⟩
  · rw [eq]
    have refreshed : Hushed id s (s.refreshed active) := hushed_same rfl rfl rfl
    exact refreshed.trans (hushed_send rfl sessionID)
  · rw [eq]
    exact hushed_scheduleNextSong unlisted

theorem hushed_welcomeSpeaker (session : Session) :
    Hushed id s (finalState (welcomeSpeaker session s)) := by
  rw [welcomeSpeaker]
  rcases getActiveSong_cases agrees with ⟨active, -, eq⟩ | ⟨-, eq⟩
  · rw [eq]
    have refreshed : Hushed id s (s.refreshed active) := hushed_same rfl rfl rfl
    exact refreshed.trans (hushed_send rfl session.id)
  · rw [eq]
    have welcomed := hushed_newSpeakerAuthenticated unlisted agrees session.id
    simp only [catching]
    generalize newSpeakerAuthenticated session.id s = result at welcomed ⊢
    cases result <;> exact welcomed

omit agrees unlisted in
theorem hushed_playingUpdate (sessionID songID : Int)
    (unstarted : ∀ next, s.nextSong = some next →
      ¬ (songID = next.id ∧ s.accepts (selectionDelay next))) :
    Hushed id s (finalState (playingUpdate sessionID songID s)) := by
  rw [playingUpdate_apply]
  cases selected : s.nextSong with
  | none => exact .refl id s
  | some next =>
    dsimp only
    split
    · rename_i expected
      rw [if_neg fun accepted => unstarted next selected ⟨expected, accepted⟩, finalState_error,
        cancelSongTimerTask_eq]
      exact hushed_same rfl rfl rfl
    · cases s.activeSong with
      | none => exact .refl id s
      | some active =>
        dsimp only
        split
        · exact .refl id s
        · have refreshed : Hushed id s (s.refreshed active) := hushed_same rfl rfl rfl
          exact (refreshed.trans (hushed_send rfl sessionID)).trans (hushed_send rfl sessionID)

omit agrees unlisted in
theorem hushed_stoppedUpdate (sessionID : Int) :
    Hushed id s (finalState (stoppedUpdate sessionID s)) := by
  rw [stoppedUpdate_apply]
  cases s.activeSong with
  | none => exact .refl id s
  | some active =>
    have marked : Hushed id s (s.marked active) := hushed_same rfl rfl rfl
    cases s.nextSong with
    | some song => exact marked
    | none =>
      dsimp only
      cases (s.marked active).candidate with
      | none => exact marked
      | some song =>
        have chosen : Hushed id (s.marked active) ((s.marked active).selected song) :=
          hushed_same rfl rfl rfl
        exact (marked.trans chosen).trans (hushed_send rfl sessionID)

omit agrees unlisted in
theorem hushed_readyUpdate (sessionID songID : Int) :
    Hushed id s (finalState (readyUpdate sessionID songID s)) := by
  rw [readyUpdate_apply]
  cases s.nextSong with
  | none => exact .refl id s
  | some song =>
    apply hushed_send
    split <;> rfl

omit agrees unlisted in
theorem hushed_statusUpdate {sessionID : Int} {update : Option StatusUpdateMessage}
    (unstarted : s.startsNext (.speakerStatusUpdate sessionID update) = none) :
    Hushed id s (s.call (.speakerStatusUpdate sessionID update)) := by
  rw [call, speakerStatusUpdate_apply]
  split
  · exact .refl id s
  · rename_i valid
    rcases update with _ | ⟨songID, _ | status⟩
    · exact .refl id s
    · exact .refl id s
    · cases status with
      | Playing =>
        apply hushed_playingUpdate
        rintro next selected ⟨rfl, accepted⟩
        simp [startsNext, not_lt.mp valid, selected, accepted] at unstarted
      | Stopped => exact hushed_stoppedUpdate sessionID
      | Ready => exact hushed_readyUpdate sessionID songID
      | Paused => exact .refl id s

end Hushed

theorem Informs.trans {u : Server} {us vs : List SessionUpdate} (first : Informs id us s t)
    (second : Informs id vs t u) : Informs id (us ++ vs) s u := by
  refine ⟨first.tells.trans second.tells, first.votes.trans second.votes,
    first.song.trans second.song, first.balance.trans second.balance,
    second.songs.trans first.songs, ?_, ?_⟩
  · intro totals listed
    rcases List.mem_append.mp listed with before | after
    · exact first.library totals before
    · exact (second.library totals after).trans first.songs
  · intro u listed
    rcases List.mem_append.mp listed with before | after
    · exact first.noList u before
    · exact second.noList u after

section Figures

theorem getVotes_of_same (songs : t.db.songs.map SongRow.id = s.db.songs.map SongRow.id)
    (votes : t.db.votes = s.db.votes) : t.db.getVotes = s.db.getVotes := by
  have counted : ∀ db : Database, db.getVotes = (db.songs.map SongRow.id).map fun songID =>
      { id := songID, votes := (db.votes.countP fun v => v.song_id = songID : Nat) } := by
    intro db
    rw [Database.getVotes_eq, List.map_map]
    rfl
  rw [counted, counted, songs, votes]

theorem getVotes_ids (s : Server) : s.db.getVotes.map VoteData.id = s.db.songs.map SongRow.id := by
  rw [Database.getVotes_eq, List.map_map]
  rfl

theorem untold_of_acts {report : Option (Int × Status)}
    (other : ∀ id, report ≠ some (id, .Playing)) (acts : Acts report s t) : Untold s t := by
  obtain ⟨votes, likes, active⟩ := unstarted_of_acts other acts
  exact ⟨votes, likes, active, songIds_of_changes (changes_of_acts acts)⟩

theorem Untold.votesNow (h : Untold s t) : t.votesNow = s.votesNow := by
  unfold Server.votesNow
  rw [getVotes_of_same h.songs h.votes]

variable (agrees : s.playback.Agrees)
include agrees

theorem likeData_active {active : ActiveSong} (running : s.activeSong = some active) :
    likeData s.db active.id =
      (computeLikeBalance (s.db.likesOf active.id) (s.db.dislikesOf active.id)).bind
        (LikeData.create active.id (s.db.likesOf active.id) (s.db.dislikesOf active.id)) := by
  obtain ⟨same, likes, dislikes⟩ := groups_of_active agrees running
  have sums : Database.sumReactions active.id (Tables.groupCount id s.db.activeReactions) =
      (active.id, (s.db.likesOf active.id : Int), (s.db.dislikesOf active.id : Int)) := by
    rw [← likes, ← dislikes]
    exact Prod.ext (Database.sumReactions_song _ _ same) (Database.sumReactions_counts _ _)
  rw [likeData, sums]
  rfl

theorem stats_idle (idle : s.activeSong = none) : s.stats = none := by
  rcases getActiveSong_cases agrees with ⟨active, running, -⟩ | ⟨-, eq⟩
  · rw [idle] at running
    cases running
  · unfold stats
    rw [getStats_apply, eq]

theorem stats_running {active : ActiveSong} (running : s.activeSong = some active) :
    s.stats = (likeData s.db active.id).toOption := by
  rcases getActiveSong_cases agrees with ⟨other, same, eq⟩ | ⟨idle, -⟩
  · rw [running] at same
    cases same
    have rows : (s.refreshed active).db = s.db := rfl
    unfold stats
    rw [getStats_apply, eq]
    dsimp only
    rw [rows, positioned_toSong]
    cases likeData s.db active.id <;> rfl
  · rw [running] at idle
    cases idle

theorem stats_of_same (agrees' : t.playback.Agrees) (likes : t.db.likes = s.db.likes)
    (active : t.activeID = s.activeID) : t.stats = s.stats := by
  unfold activeID at active
  cases running : s.activeSong with
  | none =>
    rw [running, Option.map_none, Option.map_eq_none_iff] at active
    rw [stats_idle agrees running, stats_idle agrees' active]
  | some song =>
    rw [running, Option.map_some] at active
    obtain ⟨other, running', same⟩ := Option.map_eq_some_iff.mp active
    have ours : ∀ songID, t.db.likesOf songID = s.db.likesOf songID := by
      intro songID
      unfold Database.likesOf
      rw [likes]
    have theirs : ∀ songID, t.db.dislikesOf songID = s.db.dislikesOf songID := by
      intro songID
      unfold Database.dislikesOf
      rw [likes]
    rw [stats_running agrees running, stats_running agrees' running', likeData_active agrees running,
      likeData_active agrees' running', ours, theirs, same]

theorem Untold.informs (h : Untold s t) (agrees' : t.playback.Agrees)
    (told : ∃ us, (∀ u ∈ us, u.forSpeakers) ∧ Tells id us s t) : ∃ us, Informs id us s t := by
  obtain ⟨us, speakers, tells⟩ := told
  refine ⟨us, tells, ?_, ?_, ?_, h.songs, ?_,
    fun u listed => (SessionUpdate.tells_phone_nothing (speakers u listed)).noList⟩
  · rw [h.votesNow]
    exact leads_silent fun u listed => (SessionUpdate.tells_phone_nothing (speakers u listed)).votes
  · rw [h.active]
    exact leads_silent fun u listed => (SessionUpdate.tells_phone_nothing (speakers u listed)).song
  · unfold balanceNow
    rw [stats_of_same agrees agrees' h.likes h.active]
    exact leads_silent fun u listed => (SessionUpdate.tells_phone_nothing (speakers u listed)).balance
  · intro vs listed
    cases speakers _ listed

end Figures

section Telling
variable (listed : (s.db.sessionIds .User).count id = 1)
include listed

theorem tells_users (u : SessionUpdate) : Tells id [u] s (s.broadcastUpdate u .User) := by
  refine ⟨?_, rfl⟩
  rw [broadcastUpdate_sessionMap, listed]
  rfl

theorem informs_vote (agrees : s.playback.Agrees) (songID sessionID : Int) :
    ∃ us, Informs id us s (s.call (.vote songID sessionID)) := by
  rw [call, vote_apply]
  split
  · exact Untold.informs agrees ⟨rfl, rfl, rfl, rfl⟩ agrees ⟨[], by simp, tells_of_same rfl rfl⟩
  · let stored : Server := { s with db := s.db.insertVote sessionID songID }
    have before : Tells id [] s stored := tells_of_same rfl rfl
    have told := tells_users (s := stored) listed (.votes stored.db.getVotes)
    refine ⟨[.votes stored.db.getVotes], before.trans told, ?_, ?_, ?_, rfl, ?_, ?_⟩
    · exact leads_told rfl
    · exact leads_silent (by simp [SessionUpdate.songTold])
    · have figures : (stored.broadcastUpdate (.votes stored.db.getVotes) .User).stats = s.stats :=
        stats_of_same agrees agrees rfl rfl
      rw [finalState_ok]
      unfold balanceNow
      rw [figures]
      exact leads_silent (by simp [SessionUpdate.balanceTold])
    · intro vs named
      cases List.mem_singleton.mp named
      exact getVotes_ids stored
    · simp [getUpdateType]

theorem informs_counted {stored t : Server} {figures : LikeData}
    (before : Tells id [] s stored) (still : stored.playback.Agrees)
    (rows : stored.db.sessions = s.db.sessions) (votes : stored.db.votes = s.db.votes)
    (songs : stored.db.songs = s.db.songs) (active : stored.activeID = s.activeID)
    (counted : getStats stored = .ok figures t) :
    Informs id [.likes figures] s (t.broadcastUpdate (.likes figures) .User) ∧
      t.playback.Agrees ∧ t.db.sessions = s.db.sessions := by
  have heard := unheard_getStats still id
  have acts := acts_getStats none still
  rw [counted, finalState_ok] at heard acts
  have after : t.playback.Agrees := agrees_of_acts acts still
  have same := unstarted_of_acts (by simp) acts
  have users : (t.db.sessionIds .User).count id = 1 := by
    unfold Database.sessionIds
    rw [heard.rows, rows]
    exact listed
  have told := (before.trans heard.tells).trans (tells_users users (.likes figures))
  have shown : stored.stats = some figures := by
    unfold stats
    rw [counted]
  have library : t.db.songs = s.db.songs := heard.songs.trans songs
  refine ⟨⟨told, ?_, ?_, ?_, congrArg (List.map SongRow.id) library, by simp,
    by simp [getUpdateType]⟩, after, heard.rows.trans rows⟩
  · have totals : t.votesNow = s.votesNow := by
      unfold votesNow
      rw [getVotes_of_same (by rw [library]) (same.votes.trans votes)]
    have kept : (t.broadcastUpdate (.likes figures) .User).votesNow = t.votesNow := rfl
    rw [kept, totals]
    exact leads_silent (by simp [SessionUpdate.votesTold])
  · have kept : (t.broadcastUpdate (.likes figures) .User).activeID = s.activeID :=
      heard.active.trans active
    rw [kept]
    exact leads_silent (by simp [SessionUpdate.songTold])
  · have kept : (t.broadcastUpdate (.likes figures) .User).stats = stored.stats :=
      stats_of_same still after same.likes heard.active
    unfold balanceNow
    rw [kept, shown]
    exact leads_told rfl

end Telling

section Reactions
variable (agrees : s.playback.Agrees) (positive : ∀ r ∈ s.db.songs, 0 < r.id)
include agrees positive

theorem informs_uncounted {stored t : Server} {e : JavaException}
    (before : Tells id [] s stored) (votes : stored.db.votes = s.db.votes)
    (songs : stored.db.songs = s.db.songs) (playback : stored.playback = s.playback)
    (active : stored.activeSong = s.activeSong) (counted : getStats stored = .error e t) :
    Informs id [] s t := by
  have still : stored.playback.Agrees := playback ▸ agrees
  have idle : s.activeSong = none := by
    cases running : s.activeSong with
    | none => rfl
    | some song =>
      obtain ⟨r, listed, same⟩ := agrees.listed song.toSong (by simp [Server.playback, running])
      have nonneg : 0 ≤ song.id := by
        have := positive r listed
        omega
      obtain ⟨balance, figures⟩ := getStats_active still (active.trans running) nonneg
      rw [figures] at counted
      cases counted
  have unchanged : t = stored := by
    have none : stored.activeSong = none := active.trans idle
    rcases getActiveSong_cases still with ⟨song, running, -⟩ | ⟨-, eq⟩
    · rw [none] at running
      cases running
    · rw [getStats_apply, eq] at counted
      cases counted
      rfl
  rw [unchanged]
  refine ⟨before, ?_, ?_, ?_, congrArg (List.map SongRow.id) songs, by simp, by simp⟩
  · unfold votesNow
    rw [getVotes_of_same (by rw [songs]) votes]
    exact leads_silent (by simp)
  · have same : stored.activeID = s.activeID := by
      unfold activeID
      rw [active]
    rw [same]
    exact leads_silent (by simp)
  · unfold balanceNow
    rw [stats_idle still (active.trans idle), stats_idle agrees idle]
    exact leads_silent (by simp)

theorem informs_like (listed : (s.db.sessionIds .User).count id = 1) (songID sessionID : Int) :
    ∃ us, Informs id us s (s.call (.like songID sessionID)) := by
  rw [call, like_apply]
  split
  · exact Untold.informs agrees ⟨rfl, rfl, rfl, rfl⟩ agrees ⟨[], by simp, tells_of_same rfl rfl⟩
  · have before : Tells id [] s (s.reacted sessionID songID 1) := tells_of_same rfl rfl
    cases counted : getStats (s.reacted sessionID songID 1) with
    | error e t => exact ⟨_, informs_uncounted agrees positive before rfl rfl rfl rfl counted⟩
    | ok figures t => exact ⟨_, (informs_counted listed before agrees rfl rfl rfl rfl counted).1⟩

theorem informs_dislike (listed : (s.db.sessionIds .User).count id = 1)
    (unlisted : (s.db.sessionIds .Speaker).count id = 0) (songID sessionID : Int) :
    ∃ us, Informs id us s (s.call (.dislike songID sessionID)) := by
  rw [call, dislike_apply]
  split
  · exact Untold.informs agrees ⟨rfl, rfl, rfl, rfl⟩ agrees ⟨[], by simp, tells_of_same rfl rfl⟩
  · have before : Tells id [] s (s.reacted sessionID songID (-1)) := tells_of_same rfl rfl
    cases counted : getStats (s.reacted sessionID songID (-1)) with
    | error e t => exact ⟨_, informs_uncounted agrees positive before rfl rfl rfl rfl counted⟩
    | ok figures t =>
      obtain ⟨first, after, rows⟩ := informs_counted listed before agrees rfl rfl rfl rfl counted
      dsimp only
      split
      · let told := t.broadcastUpdate (.likes figures) .User
        have still : told.playback.Agrees := after
        have others : (told.db.sessionIds .Speaker).count id = 0 := by
          have same : told.db.sessions = s.db.sessions := rows
          unfold Database.sessionIds
          rw [same]
          exact unlisted
        have skipped := acts_skipToNext none (s := told)
        obtain ⟨vs, second⟩ := Untold.informs still (untold_of_acts (by simp) skipped)
          (agrees_of_acts skipped still) (hushed_skipToNext others).told
        exact ⟨_, first.trans second⟩
      · exact ⟨_, first⟩

end Reactions

section Starting

theorem tells_refreshed (s : Server) (active : ActiveSong) : Tells id [] s (s.refreshed active) :=
  tells_of_same rfl rfl

variable (agrees : s.playback.Agrees) (positive : ∀ r ∈ s.db.songs, 0 < r.id)
include agrees positive

theorem nonneg_active {active : ActiveSong} (running : s.activeSong = some active) : 0 ≤ active.id := by
  obtain ⟨r, row, same⟩ := agrees.listed active.toSong (by simp [Server.playback, running])
  have above := positive r row
  have named : r.id = active.id := same
  omega

theorem tells_announce (listed : (s.db.sessionIds .User).count id = 1) {active : ActiveSong}
    (running : s.activeSong = some active) :
    ∃ current figures, current.id = active.id ∧ s.stats = some figures ∧
      Tells id [.current_song current, .likes figures, .votes s.db.getVotes] s
        (finalState (announce s)) := by
  let first := (s.refreshed active).broadcastUpdate (.current_song (s.positioned active)) .User
  have still : first.playback.Agrees := by
    have kept : first.playback = s.playback := playback_refreshed running
    exact kept ▸ agrees
  have current : (s.positioned active).id = active.id := by rw [positioned_toSong]
  have refreshed : first.activeSong = some (s.positioned active) := rfl
  obtain ⟨balance, figures⟩ := getStats_active still refreshed (by
    rw [current]
    exact nonneg_active agrees positive running)
  generalize ({ id := _, likes := _, dislikes := _, balance := balance } : LikeData) = counted at figures
  have read : first.stats = some counted := by
    unfold stats
    rw [figures]
  have same : first.stats = s.stats := by
    apply stats_of_same agrees still rfl
    have after : first.activeID = some (s.positioned active).id := rfl
    rw [after, current, activeID, running]
    rfl
  have start : Tells id [] s (s.refreshed active) := tells_refreshed s active
  have song := tells_users (s := s.refreshed active) listed (.current_song (s.positioned active))
  have again : Tells id [] first (first.refreshed (s.positioned active)) := tells_refreshed first _
  have likes := tells_users (s := first.refreshed (s.positioned active)) listed (.likes counted)
  have votes := tells_users (s := (first.refreshed (s.positioned active)).broadcastUpdate
    (.likes counted) .User) listed (.votes s.db.getVotes)
  have rows : ((first.refreshed (s.positioned active)).broadcastUpdate (.likes counted) .User).db =
      s.db := rfl
  refine ⟨s.positioned active, counted, current, same ▸ read, ?_⟩
  have announced : finalState (announce s) = ((first.refreshed (s.positioned active)).broadcastUpdate
      (.likes counted) .User).broadcastUpdate (.votes s.db.getVotes) .User := by
    rw [announce, bind_apply, getActiveSong_apply, running]
    dsimp only
    rw [bind_apply, modify_apply]
    dsimp only
    rw [bind_apply, figures]
    dsimp only
    rw [bind_apply, modify_apply]
    dsimp only
    rw [modify_apply, rows, finalState_ok]
  rw [announced]
  exact (((start.trans song).trans again).trans likes).trans votes

theorem informs_announce (listed : (s.db.sessionIds .User).count id = 1) {active : ActiveSong}
    (running : s.activeSong = some active) {before : Server} (quiet : Tells id [] before s)
    (songs : s.db.songs.map SongRow.id = before.db.songs.map SongRow.id) :
    ∃ us, Informs id us before (finalState (announce s)) := by
  obtain ⟨current, figures, named, shown, told⟩ := tells_announce agrees positive listed running
  obtain ⟨sessionMap, after, ⟨same, -⟩, -, announced⟩ :=
    announce_active agrees running (nonneg_active agrees positive running)
  have acts := acts_announce none agrees
  rw [announced, finalState_ok] at told acts ⊢
  have id_after : after.id = active.id := congrArg Song.id same
  refine ⟨_, quiet.trans told, ?_, ?_, ?_, songs, ?_, by simp [getUpdateType]⟩
  · have totals : Server.votesNow { s with sessionMap := sessionMap, activeSong := some after } =
        some (countOf s.db.getVotes) := rfl
    rw [totals]
    exact leads_told (by simp [lastTold, List.filterMap_cons, SessionUpdate.votesTold])
  · have song : Server.activeID { s with sessionMap := sessionMap, activeSong := some after } =
        some current.id := by
      rw [named, ← id_after]
      rfl
    rw [song]
    exact leads_told (by simp [lastTold, List.filterMap_cons, SessionUpdate.songTold])
  · have kept : Server.stats { s with sessionMap := sessionMap, activeSong := some after } =
        some figures := by
      rw [← shown]
      apply stats_of_same agrees (agrees_of_acts acts agrees) rfl
      unfold activeID
      rw [running, Option.map_some, Option.map_some, id_after]
    unfold balanceNow
    rw [kept]
    exact leads_told (by simp [lastTold, List.filterMap_cons, SessionUpdate.balanceTold])
  · intro vs one
    have totals : vs = s.db.getVotes := by simpa using one
    rw [totals, ← songs]
    exact getVotes_ids s

theorem informs_started (listed : (s.db.sessionIds .User).count id = 1) {c : Call} {next : Song}
    (starts : s.startsNext c = some next) : ∃ us, Informs id us s (s.call c) := by
  obtain ⟨selected, accepted, sessionID, called⟩ := playing_of_startsNext starts
  have renewed := (acts_cancelSongTimerTask (some (sessionID, .Playing)) s).trans (acts_renewed _ _)
  have scheduled := renewed.trans (acts_scheduled _ _ { id := s.tasksCreated, action := .scheduleNextSong })
  have acts : Acts (some (sessionID, .Playing)) s (s.playbackUpdated next) := by
    apply scheduled.tail
    apply Act.start _ next sessionID rfl
    simpa [cancelSongTimerTask_eq, Server.renewed, Server.scheduled] using selected
  have library := songIds_of_changes (changes_of_acts acts)
  have rows := (handed_of_acts acts).sessions
  have quiet : Tells id [] s (s.playbackUpdated next) := by
    apply tells_of_same
    · simp [playbackUpdated, Server.started, Server.scheduled, Server.renewed, cancelSongTimerTask_eq]
    · simp [playbackUpdated, Server.started, Server.scheduled, Server.renewed, cancelSongTimerTask_eq]
  rw [called, playingUpdate_apply, selected]
  dsimp only
  rw [if_pos rfl, if_pos accepted]
  refine informs_announce (agrees_of_acts acts agrees) (positive_of_songIds library positive) ?_ rfl
    quiet library
  unfold Database.sessionIds
  rw [rows]
  exact listed

end Starting

section Calls

def isPhone (s : Server) (id : Int) : Prop :=
  ∃ session, s.sessionMap id = some session ∧ session.clientType = .User

variable (agrees : s.playback.Agrees) (roster : s.RosterAgrees) (phone : s.isPhone id)
include roster phone

theorem listed_phone : (s.db.sessionIds .User).count id = 1 := by
  obtain ⟨session, live, type⟩ := phone
  rw [roster.count_sessionIds live, type]
  rfl

theorem unlisted_phone : (s.db.sessionIds .Speaker).count id = 0 := by
  obtain ⟨session, live, type⟩ := phone
  rw [roster.count_sessionIds live, type]
  rfl

theorem tells_joined (ip : String) (type : SessionType) : Tells id [] s (s.joined ip type) := by
  obtain ⟨session, live, -⟩ := phone
  obtain ⟨-, r, hr, named, -⟩ := roster.live id session live
  have old : id ≠ s.db.sessionSequence + 1 := by
    have := (roster.numbered r hr).2
    omega
  refine tells_of_same ?_ rfl
  exact Function.update_of_ne old _ _

include agrees

theorem hushed_authenticateSpeaker (pin : Option String) (ip : String) :
    ∃ us, (∀ u ∈ us, u.forSpeakers) ∧ Tells id us s (s.call (.authenticateSpeaker pin ip)) := by
  rw [call, speakerAuthenticate_apply]
  cases pin with
  | none => exact ⟨[], by simp, tells_of_same rfl rfl⟩
  | some pin =>
    dsimp only
    split
    · have joined := tells_joined roster phone ip .Speaker
      have phone' : (s.joined ip .Speaker).isPhone id := by
        obtain ⟨session, live, type⟩ := phone
        refine ⟨session, ?_, type⟩
        have same := joined.session
        rw [live] at same
        simpa using same
      obtain ⟨us, speakers, told⟩ := (hushed_welcomeSpeaker
        (unlisted_phone (roster.joined ip .Speaker) phone') agrees _).told
      exact ⟨us, speakers, joined.trans told⟩
    · exact ⟨[], by simp, tells_of_same rfl rfl⟩

theorem hushed_call {c : Call} (elsewhere : Elsewhere id c = true) (starts : s.startsNext c = none)
    (vote : ∀ songID sessionID, c ≠ .vote songID sessionID)
    (like : ∀ songID sessionID, c ≠ .like songID sessionID)
    (dislike : ∀ songID sessionID, c ≠ .dislike songID sessionID) :
    ∃ us, (∀ u ∈ us, u.forSpeakers) ∧ Tells id us s (s.call c) := by
  have unlisted := unlisted_phone roster phone
  have nothing : ∀ {t : Server}, Tells id [] s t →
      ∃ us, (∀ u ∈ us, u.forSpeakers) ∧ Tells id us s t := fun tells => ⟨[], by simp, tells⟩
  cases c with
  | vote songID sessionID => exact absurd rfl (vote songID sessionID)
  | like songID sessionID => exact absurd rfl (like songID sessionID)
  | dislike songID sessionID => exact absurd rfl (dislike songID sessionID)
  | authenticateUser pin ip =>
    rw [call, clientAuthenticate_apply]
    cases pin with
    | none => exact nothing (tells_of_same rfl rfl)
    | some pin =>
      dsimp only
      split
      · exact nothing (tells_joined roster phone ip .User)
      · exact nothing (tells_of_same rfl rfl)
  | authenticateSpeaker pin ip => exact hushed_authenticateSpeaker agrees roster phone pin ip
  | destroySession sessionID =>
    have other : id ≠ sessionID := Ne.symm (of_decide_eq_true elsewhere)
    rw [call, destroySession_apply]
    split
    · exact nothing (tells_of_same rfl rfl)
    · exact nothing (tells_of_same (Function.update_of_ne other _ _) rfl)
  | getActiveSong => exact nothing (unheard_getActiveSong agrees id).tells
  | getStats => exact nothing (unheard_getStats agrees id).tells
  | registerRequest sessionID ch =>
    have other : id ≠ sessionID := Ne.symm (of_decide_eq_true elsewhere)
    rw [call, registerRequest_apply]
    cases s.sessionMap sessionID with
    | none => exact nothing (tells_of_same rfl rfl)
    | some session => exact nothing (tells_of_same (Function.update_of_ne other _ _) rfl)
  | speakerStatusUpdate sessionID update => exact (hushed_statusUpdate starts).told
  | fireTask task =>
    rw [call, fireTask]
    split
    · have taken : Tells id [] s (s.taken task) := tells_of_same rfl rfl
      have still : (s.taken task).playback.Agrees := agrees
      obtain ⟨us, speakers, told⟩ := (hushed_runTask (s := s.taken task) unlisted still task.action).told
      exact ⟨us, speakers, taken.trans told⟩
    · exact nothing (tells_of_same rfl rfl)
  | channelClosed ch => cases elsewhere
  | clockAdvanced ms => exact nothing (tells_of_same rfl rfl)
  | rescanned rank => exact nothing (tells_of_same rfl rfl)

/-- Every call tells the phone what has changed. -/
theorem informs_call (positive : ∀ r ∈ s.db.songs, 0 < r.id) {c : Call}
    (elsewhere : Elsewhere id c = true) : ∃ us, Informs id us s (s.call c) := by
  have listed := listed_phone roster phone
  cases starts : s.startsNext c with
  | some next => exact informs_started agrees positive listed starts
  | none =>
    by_cases vote : ∃ songID sessionID, c = .vote songID sessionID
    · obtain ⟨songID, sessionID, rfl⟩ := vote
      exact informs_vote listed agrees songID sessionID
    by_cases like : ∃ songID sessionID, c = .like songID sessionID
    · obtain ⟨songID, sessionID, rfl⟩ := like
      exact informs_like agrees positive listed songID sessionID
    by_cases dislike : ∃ songID sessionID, c = .dislike songID sessionID
    · obtain ⟨songID, sessionID, rfl⟩ := dislike
      exact informs_dislike agrees positive listed (unlisted_phone roster phone) songID sessionID
    push Not at vote like dislike
    have still := agrees_call agrees c
    have told := hushed_call agrees roster phone elsewhere starts vote like dislike
    have kept := call_unstarted agrees starts
    have stored : s.stored c = s := by
      cases c with
      | vote songID sessionID => exact absurd rfl (vote songID sessionID)
      | like songID sessionID => exact absurd rfl (like songID sessionID)
      | dislike songID sessionID => exact absurd rfl (dislike songID sessionID)
      | _ => rfl
    rw [stored] at kept
    exact Untold.informs agrees ⟨kept.votes, kept.likes, kept.active,
      songIds_of_changes (changes_call agrees c)⟩ still told

end Calls

end Server
end MusicCloud

import MusicCloud.Results
import MusicCloud.Playback

/-!
The primitive acts that the methods of the song manager are made of. Each
method, also when it throws, is a sequence of acts; what every act keeps,
every method keeps. Two acts happen on a speaker's report only: a song starts
on a Playing report, and a song selected on a Stopped report is announced to
the session that sent it and to no other.
-/
namespace MusicCloud
open Playback

namespace Server
variable {s : Server}

section Unchanged

@[simp] theorem playback_broadcastUpdate (update : SessionUpdate) (type : SessionType)
    (s : Server) : (s.broadcastUpdate update type).playback = s.playback := rfl

@[simp] theorem playback_sendUpdate (update : SessionUpdate) (sessionID : Int) (s : Server) :
    (s.sendUpdate update sessionID).playback = s.playback := rfl

@[simp] theorem playback_cancelSongTimerTask (s : Server) :
    s.cancelSongTimerTask.playback = s.playback := by rw [cancelSongTimerTask_eq]; rfl

@[simp] theorem playback_cleared (s : Server) : s.cleared.playback = s.playback := by
  rw [cleared, cancelSongTimerTask_eq]; rfl

@[simp] theorem playback_renewed (s : Server) : s.renewed.playback = s.playback := rfl

@[simp] theorem playback_scheduled (task : TimerTask) (s : Server) :
    (s.scheduled task).playback = s.playback := rfl

theorem playback_refreshed {active : ActiveSong} (h : s.activeSong = some active) :
    (s.refreshed active).playback = s.playback := by
  simp only [playback, refreshed, h, Option.map_some, positioned_toSong]

end Unchanged

section Changed

theorem candidate_row {song : Song} (h : s.candidate = some song) :
    ∃ r ∈ s.db.songs, r.status = .Inactive ∧ song.id = r.id ∧ song.length = r.length := by
  obtain ⟨row, first, rfl⟩ := Option.map_eq_some_iff.mp h
  obtain ⟨listed, inactive⟩ := Database.nextSongQuery_mem (List.mem_of_head? first)
  exact ⟨row.1, listed, inactive, rfl, rfl⟩

theorem candidate_eq_none : s.candidate = none ↔ ∀ r ∈ s.db.songs, r.status ≠ .Inactive := by
  rw [← Database.nextSongQuery_eq_nil, candidate, Option.map_eq_none_iff, List.head?_eq_none_iff]

theorem playback_started (song : Song) (s : Server) : (s.started song).playback = { s.playback with
    songs := s.db.songs.map (Database.transitionRow (s.playback.activeSong.map Song.id) song.id
      s.datetime)
    activeSong := some song
    nextSong := none } := by
  simp only [playback, started, Database.updateNextSong_songs, Option.map_map, Option.map_some]
  rfl

end Changed

/-- A primitive act; `report` is the session and status of a speaker's report. -/
inductive Act (report : Option (Int × Status)) : Server → Server → Prop
  | broadcast (s : Server) (update : SessionUpdate) (type : SessionType) :
      Act report s (s.broadcastUpdate update type)
  | send (s : Server) (update : SessionUpdate) (sessionID : Int) :
      Act report s (s.sendUpdate update sessionID)
  | refresh (s : Server) (active : ActiveSong) (running : s.activeSong = some active) :
      Act report s (s.refreshed active)
  | timer (s : Server) (tasks : List TimerTask) (task : Option Nat) (created : Nat) :
      Act report s
        { s with songTimer := tasks, songTimerTask := task, tasksCreated := created }
  | select (s : Server) (song : Song) (unset : s.nextSong = none)
      (choice : s.candidate = some song) :
      Act report s ((s.selected song).broadcastUpdate (.upcoming_song song) .Speaker)
  | selectFor (s : Server) (song : Song) (sessionID : Int) (stopped : report = some (sessionID, .Stopped))
      (unset : s.nextSong = none) (choice : s.candidate = some song) :
      Act report s ((s.selected song).sendUpdate (.upcoming_song song) sessionID)
  | mark (s : Server) (active : ActiveSong) (running : s.activeSong = some active) :
      Act report s (s.marked active)
  | start (s : Server) (song : Song) (sessionID : Int) (playing : report = some (sessionID, .Playing))
      (next : s.nextSong = some song) :
      Act report s (s.started song)

abbrev Acts (report : Option (Int × Status)) : Server → Server → Prop :=
  Relation.ReflTransGen (Act report)

theorem changes_of_act {report : Option (Int × Status)} {s t : Server} (act : Act report s t) :
    Changes s.playback t.playback := by
  cases act with
  | broadcast => exact .refl
  | send => exact .refl
  | refresh active running => exact playback_refreshed running ▸ .refl
  | timer => exact .refl
  | select song unset choice =>
    obtain ⟨r, listed, inactive, id, -⟩ := candidate_row choice
    exact .single (.select s.playback song r unset listed inactive id)
  | selectFor song sessionID _ unset choice =>
    obtain ⟨r, listed, inactive, id, -⟩ := candidate_row choice
    exact .single (.select s.playback song r unset listed inactive id)
  | mark active running =>
    exact .single (.mark s.playback active.toSong (by simp [playback, running]))
  | start song _ _ next =>
    rw [playback_started]
    exact .single (.start s.playback song s.datetime next)

theorem changes_of_acts {report : Option (Int × Status)} {s t : Server} (acts : Acts report s t) :
    Changes s.playback t.playback := by
  induction acts with
  | refl => exact .refl
  | tail _ act ih => exact ih.trans (changes_of_act act)

theorem agrees_of_acts {report : Option (Int × Status)} {s t : Server} (acts : Acts report s t)
    (agrees : s.playback.Agrees) : t.playback.Agrees := agrees.changes (changes_of_acts acts)

section Timer
variable (report : Option (Int × Status)) (s : Server)

theorem acts_cancelSongTimerTask : Acts report s s.cancelSongTimerTask := by
  rw [cancelSongTimerTask_eq]
  exact .single (.timer s s.uncancelledTasks s.songTimerTask s.tasksCreated)

theorem acts_cleared : Acts report s s.cleared := by
  rw [cleared, cancelSongTimerTask_eq]
  exact .single (.timer s s.uncancelledTasks none s.tasksCreated)

theorem acts_renewed : Acts report s s.renewed :=
  .single (.timer s s.songTimer (some s.tasksCreated) (s.tasksCreated + 1))

theorem acts_scheduled (task : TimerTask) : Acts report s (s.scheduled task) :=
  .single (.timer s (s.songTimer ++ [task]) s.songTimerTask s.tasksCreated)

end Timer

section Methods
variable (report : Option (Int × Status)) (agrees : s.playback.Agrees)
include agrees

theorem activeSongQuery_nil (idle : s.activeSong = none) : s.db.activeSongQuery = [] := by
  rw [Database.activeSongQuery_eq_nil]
  intro r hr
  by_contra running
  have active : s.activeSong.map (fun a => a.toSong.id) = some r.id := by
    simpa [playback] using (agrees.active r hr).mp running
  simp [idle] at active

theorem getActiveSong_cases :
    (∃ active, s.activeSong = some active ∧
      getActiveSong s = .ok (s.positioned active) (s.refreshed active)) ∨
    (s.activeSong = none ∧ getActiveSong s = .error .noSuchElement s) := by
  rw [getActiveSong_apply]
  cases active : s.activeSong with
  | some a => exact Or.inl ⟨a, rfl, rfl⟩
  | none => exact Or.inr ⟨rfl, if_pos (activeSongQuery_nil agrees active)⟩

theorem acts_getActiveSong : Acts report s (finalState (getActiveSong s)) := by
  rcases getActiveSong_cases agrees with ⟨active, running, eq⟩ | ⟨-, eq⟩
  · rw [eq]
    exact .single (.refresh s active running)
  · rw [eq]
    exact .refl

theorem acts_getStats : Acts report s (finalState (getStats s)) := by
  have acts := acts_getActiveSong report agrees
  rw [getStats_apply]
  generalize getActiveSong s = found at acts ⊢
  cases found with
  | error e t => exact acts
  | ok active t =>
    dsimp only
    generalize likeData t.db active.id = counted
    cases counted <;> exact acts

omit agrees in
theorem acts_scheduleNextSong : Acts report s (finalState (scheduleNextSong s)) := by
  rw [scheduleNextSong_apply]
  cases next : s.nextSong with
  | some song => exact .refl
  | none =>
    cases choice : s.candidate with
    | none => exact .refl
    | some song => exact .single (.select s song next choice)

omit agrees in
theorem acts_skippedTo {song : Song} (unset : s.nextSong = none)
    (choice : s.candidate = some song) : Acts report s (s.skippedTo song) := by
  have next : s.cleared.nextSong = none := by simpa [cleared, cancelSongTimerTask_eq] using unset
  have same : s.cleared.candidate = some song := by
    simpa [candidate, cleared, cancelSongTimerTask_eq] using choice
  exact ((acts_cleared report s).tail (.select s.cleared song next same)).tail
    (.broadcast _ _ _)

omit agrees in
theorem acts_skipToNext : Acts report s (finalState (skipToNext s)) := by
  rw [skipToNext_apply]
  cases next : s.nextSong with
  | some song => exact .refl
  | none =>
    simp only [Option.isSome_none, Bool.false_eq_true, if_false]
    cases choice : s.candidate with
    | none => exact acts_cleared report s
    | some song =>
      have chosen := (acts_skippedTo report next choice).trans
        (acts_renewed report (s.skippedTo song))
      dsimp only
      split
      · exact chosen.trans (acts_scheduled report _ _)
      · exact chosen

theorem acts_like (songID sessionID : Int) (valid : ¬ (songID < 0 ∨ sessionID < 0)) :
    Acts report (s.reacted sessionID songID 1) (finalState (like songID sessionID s)) := by
  rw [like_apply, if_neg valid]
  have acts := acts_getStats report (s := s.reacted sessionID songID 1) agrees
  generalize getStats (s.reacted sessionID songID 1) = counted at acts ⊢
  cases counted with
  | error e t => exact acts
  | ok stats t => exact acts.tail (.broadcast _ _ _)

theorem acts_dislike (songID sessionID : Int) (valid : ¬ (songID < 0 ∨ sessionID < 0)) :
    Acts report (s.reacted sessionID songID (-1)) (finalState (dislike songID sessionID s)) := by
  rw [dislike_apply, if_neg valid]
  have acts := acts_getStats report (s := s.reacted sessionID songID (-1)) agrees
  generalize getStats (s.reacted sessionID songID (-1)) = counted at acts ⊢
  cases counted with
  | error e t => exact acts
  | ok stats t =>
    have acts := Relation.ReflTransGen.tail acts (.broadcast t (.likes stats) .User)
    dsimp only
    split
    · exact acts.trans (acts_skipToNext report)
    · exact acts

theorem acts_announce : Acts report s (finalState (announce s)) := by
  have acts := acts_getActiveSong report agrees
  rw [announce, bind_apply]
  generalize getActiveSong s = found at acts ⊢
  cases found with
  | error e t => exact acts
  | ok active t =>
    have acts := Relation.ReflTransGen.tail acts (.broadcast t (.current_song active) .User)
    have stats := acts_getStats report (agrees_of_acts acts agrees)
    dsimp only
    rw [bind_apply, modify_apply]
    dsimp only
    rw [bind_apply]
    generalize getStats _ = counted at stats ⊢
    cases counted with
    | error e u => exact acts.trans stats
    | ok stats u => exact ((acts.trans stats).tail (.broadcast _ _ _)).tail (.broadcast _ _ _)

theorem acts_playingUpdate (sessionID songID : Int) :
    Acts (some (sessionID, .Playing)) s (finalState (playingUpdate sessionID songID s)) := by
  have renewed := (acts_cancelSongTimerTask (some (sessionID, .Playing)) s).trans
    (acts_renewed _ _)
  rw [playingUpdate_apply]
  cases next : s.nextSong with
  | none => exact .refl
  | some song =>
    dsimp only
    split
    · split
      · have started := (renewed.trans (acts_scheduled _ _
          { id := s.tasksCreated, action := .scheduleNextSong })).tail
            (.start _ song sessionID rfl (by simpa [cancelSongTimerTask_eq, Server.renewed, scheduled] using next))
        exact started.trans (acts_announce _ (agrees_of_acts started agrees))
      · exact renewed
    · cases active : s.activeSong with
      | none => exact .refl
      | some a =>
        dsimp only
        split
        · exact .refl
        · exact ((Relation.ReflTransGen.single (.refresh s a active)).tail (.send _ _ _)).tail
            (.send _ _ _)

omit agrees in
theorem acts_stoppedUpdate (sessionID : Int) :
    Acts (some (sessionID, .Stopped)) s (finalState (stoppedUpdate sessionID s)) := by
  rw [stoppedUpdate_apply]
  cases active : s.activeSong with
  | none => exact .refl
  | some a =>
    have mark : Acts (some (sessionID, .Stopped)) s (s.marked a) := .single (.mark s a active)
    cases next : s.nextSong with
    | some song => exact mark
    | none =>
      dsimp only
      cases choice : (s.marked a).candidate with
      | none => exact mark
      | some song => exact mark.tail (.selectFor _ song sessionID rfl next choice)

omit agrees in
theorem acts_readyUpdate (sessionID songID : Int) :
    Acts report s (finalState (readyUpdate sessionID songID s)) := by
  rw [readyUpdate_apply]
  cases s.nextSong with
  | none => exact .refl
  | some song => exact .single (.send _ _ _)

def reportOf (sessionID : Int) (update : Option StatusUpdateMessage) : Option (Int × Status) :=
  update.bind fun u => u.status.map fun status => (sessionID, status)

theorem acts_speakerStatusUpdate (sessionID : Int) (update : Option StatusUpdateMessage) :
    Acts (reportOf sessionID update) s
      (finalState (speakerStatusUpdate sessionID update s)) := by
  rw [speakerStatusUpdate_apply]
  split
  · exact .refl
  · split
    · exact .refl
    · exact .refl
    · exact acts_playingUpdate agrees sessionID _
    · exact acts_stoppedUpdate sessionID
    · exact acts_readyUpdate _ sessionID _
    · exact .refl

theorem acts_newSpeakerAuthenticated (sessionID : Int) :
    Acts report s (finalState (newSpeakerAuthenticated sessionID s)) := by
  rw [newSpeakerAuthenticated_apply]
  rcases getActiveSong_cases agrees with ⟨active, running, eq⟩ | ⟨-, eq⟩
  · rw [eq]
    exact (Relation.ReflTransGen.single (.refresh s active running)).tail (.send _ _ _)
  · rw [eq]
    exact acts_scheduleNextSong _

theorem acts_welcomeSpeaker (session : Session) :
    Acts report s (finalState (welcomeSpeaker session s)) := by
  rw [welcomeSpeaker]
  rcases getActiveSong_cases agrees with ⟨active, running, eq⟩ | ⟨-, eq⟩
  · rw [eq]
    exact (Relation.ReflTransGen.single (.refresh s active running)).tail (.send _ _ _)
  · rw [eq]
    have acts := acts_newSpeakerAuthenticated report agrees session.id
    simp only [catching]
    generalize newSpeakerAuthenticated session.id s = result at acts ⊢
    cases result <;> exact acts

theorem acts_runTask (action : TaskAction) :
    Acts report s (finalState (runTask action s)) := by
  cases action with
  | scheduleNextSong =>
    have chosen := acts_scheduleNextSong report (s := s)
    rw [runTask_scheduleNextSong]
    generalize scheduleNextSong s = result at chosen ⊢
    cases result with
    | error e t => exact chosen
    | ok a t =>
      have renewed := chosen.trans (acts_renewed report t)
      dsimp only
      split
      · exact renewed.trans (acts_scheduled report _ _)
      · exact renewed
  | rebroadcastNextSong =>
    rw [runTask_rebroadcastNextSong, getNextSong_apply]
    cases next : s.nextSong with
    | some song => exact .single (.broadcast _ _ _)
    | none =>
      cases choice : s.candidate with
      | none => exact .refl
      | some song => exact .single (.select s song next choice)
  | stopActiveSong =>
    have acts := acts_getActiveSong report agrees
    rw [runTask_stopActiveSong]
    generalize getActiveSong s = found at acts ⊢
    cases found with
    | error e t => exact acts
    | ok active t => exact acts.tail (.broadcast _ _ _)

theorem acts_fireTask (task : TimerTask) : Acts report s (s.fireTask task) := by
  rw [fireTask]
  split
  · have taken : Acts report s { s with songTimer := s.songTimer.erase task } :=
      .single (.timer s (s.songTimer.erase task) s.songTimerTask s.tasksCreated)
    exact taken.trans (acts_runTask _ (agrees_of_acts taken agrees) task.action)
  · exact .refl

end Methods

end Server
end MusicCloud

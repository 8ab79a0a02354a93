import MusicCloud.Statistics

/-!
What a speaker is told in answer to a Playing or a Ready report, and in which
states the answer is the right one.
-/
namespace MusicCloud
open Runs

namespace Server

structure TransitionStarted (s t : Server) (song : Song) : Prop where
  active : t.activeSong.map ActiveSong.toSong = some song
  unset : t.nextSong = none
  database : t.db = s.db.updateNextSong (s.activeSong.map fun a => a.id) (some song.id) s.datetime
  scheduled : ∃ id, t.songTimerTask = some id ∧
    { id := id, action := .scheduleNextSong } ∈ t.songTimer

def songToLoad (s : Server) : Option Song :=
  match s.nextSong with
  | some song => some song
  | none => s.activeSong.map ActiveSong.toSong

def isNext (s : Server) (songID : Int) : Prop := ∃ next, s.nextSong = some next ∧ songID = next.id

def isActiveSong (s : Server) (songID : Int) : Prop :=
  ∃ active, s.activeSong = some active ∧ songID = active.id

def PlayingAnswered (s : Server) (sessionID songID : Int) : Prop :=
  ∃ t, speakerStatusUpdate sessionID (some { id := songID, status := some .Playing }) s = .ok () t ∧
    (∀ next, s.nextSong = some next → songID = next.id → TransitionStarted s t next) ∧
    (s.isActiveSong songID → t = s) ∧
    (∀ active, s.activeSong = some active → songID ≠ active.id → ¬ s.isNext songID →
      t.handedTo sessionID = s.handedTo sessionID ++
        [.upcoming_song active.toSong, .playback_command { command := .Stop, id := songID }])

def ReadyAnswered (s : Server) (sessionID songID : Int) : Prop :=
  ∃ t, speakerStatusUpdate sessionID (some { id := songID, status := some .Ready }) s = .ok () t ∧
    (s.isNext songID ∨ s.isActiveSong songID → t.handedTo sessionID = s.handedTo sessionID ++
      [.playback_command { command := .Play, id := songID }]) ∧
    (¬ s.isNext songID → ¬ s.isActiveSong songID → ∃ song, s.songToLoad = some song ∧
      t.handedTo sessionID = s.handedTo sessionID ++ [.upcoming_song song])

variable {s : Server}

section Announcement

theorem announce_active (agrees : s.playback.Agrees) {active : ActiveSong}
    (running : s.activeSong = some active) (nonneg : 0 ≤ active.id) :
    ∃ sessionMap current, (current.toSong = active.toSong ∧ current.status = active.status) ∧
      (∀ id, (s.db.sessionIds .User).count id = 0 → sessionMap id = s.sessionMap id) ∧
      announce s = .ok () { s with sessionMap := sessionMap, activeSong := some current } := by
  let first := (s.refreshed active).broadcastUpdate (.current_song (s.positioned active)) .User
  have still : first.playback.Agrees := by
    have same : first.playback = s.playback := playback_refreshed running
    exact same ▸ agrees
  have refreshed : first.activeSong = some (s.positioned active) := rfl
  obtain ⟨balance, stats⟩ := getStats_active still refreshed (by rwa [positioned_toSong])
  let second := (first.refreshed (s.positioned active)).broadcastUpdate (.likes
    { id := (s.positioned active).id, likes := first.db.likesOf (s.positioned active).id
      dislikes := first.db.dislikesOf (s.positioned active).id, balance := balance }) .User
  refine ⟨(second.broadcastUpdate (.votes second.db.getVotes) .User).sessionMap,
    first.positioned (s.positioned active), ⟨by simp, by simp⟩, ?_, ?_⟩
  · intro id none
    calc (second.broadcastUpdate (.votes second.db.getVotes) .User).sessionMap id
        = second.sessionMap id := broadcastUpdate_unlisted (s := second) _ none
      _ = first.sessionMap id :=
        broadcastUpdate_unlisted (s := first.refreshed (s.positioned active)) _ none
      _ = s.sessionMap id := broadcastUpdate_unlisted (s := s.refreshed active) _ none
  · rw [announce, bind_apply, getActiveSong_apply, running]
    dsimp only
    rw [bind_apply, modify_apply]
    dsimp only
    rw [bind_apply, stats]
    rfl

end Announcement

section Reports
variable (agrees : s.playback.Agrees) (roster : s.RosterAgrees)
  (positive : ∀ r ∈ s.db.songs, 0 < r.id)

/-- Without a next song every Playing and every Ready report fails. -/
theorem report_unselected (unset : s.nextSong = none) (sessionID songID : Int) {status : Status}
    (kind : status = .Playing ∨ status = .Ready) (t : Server) :
    speakerStatusUpdate sessionID (some { id := songID, status := some status }) s ≠ .ok () t := by
  rw [speakerStatusUpdate_apply]
  rcases kind with rfl | rfl
  · dsimp only
    rw [playingUpdate_apply, unset]
    split <;> simp
  · dsimp only
    rw [readyUpdate_apply, unset]
    split <;> simp

include agrees positive in
theorem playing_announced {next : Song} (selected : s.nextSong = some next)
    (accepted : s.accepts (selectionDelay next)) (sessionID : Int) :
    ∃ sessionMap current, (current.toSong = next ∧ current.status = .Playing) ∧
      (∀ id, (s.db.sessionIds .User).count id = 0 → sessionMap id = s.sessionMap id) ∧
      playingUpdate sessionID next.id s = .ok () { s.playbackUpdated next with
        sessionMap := sessionMap, activeSong := some current } := by
  have after : (s.playbackUpdated next).playback.Agrees :=
    agrees_of_acts ((((acts_cancelSongTimerTask (some (sessionID, .Playing)) s).trans
      (acts_renewed _ _)).trans
      (acts_scheduled _ _ { id := s.tasksCreated, action := .scheduleNextSong })).tail
        (.start _ next sessionID rfl (by simpa [cancelSongTimerTask_eq, renewed, scheduled] using selected)))
      agrees
  obtain ⟨r, hr, id, -⟩ := agrees.next next selected
  have nonneg : 0 ≤ next.id := by
    have := positive r hr
    omega
  have running : (s.playbackUpdated next).activeSong =
      some { next with position := 0, status := .Playing } := rfl
  obtain ⟨sessionMap, current, same, rest, told⟩ := announce_active after running nonneg
  have users : (s.playbackUpdated next).db.sessionIds .User = s.db.sessionIds .User := by
    unfold Database.sessionIds
    rw [playbackUpdated_db, (updateNextSong_sessions _ _ _ s.db).1]
  have untouched : (s.playbackUpdated next).sessionMap = s.sessionMap := by
    simp [playbackUpdated, started, scheduled, renewed, cancelSongTimerTask_eq]
  refine ⟨sessionMap, current, same, ?_, ?_⟩
  · intro id none
    rw [rest id (by rw [users]; exact none), untouched]
  · rw [playingUpdate_apply, selected]
    simpa [accepted] using told

include agrees positive in
theorem playing_started {next : Song} (selected : s.nextSong = some next)
    (accepted : s.accepts (selectionDelay next)) (sessionID : Int) :
    ∃ t, playingUpdate sessionID next.id s = .ok () t ∧ TransitionStarted s t next := by
  obtain ⟨sessionMap, current, ⟨same, -⟩, -, told⟩ :=
    playing_announced agrees positive selected accepted sessionID
  refine ⟨_, told, ?_⟩
  refine ⟨by simp [same], rfl, ?_, s.tasksCreated, ?_, ?_⟩
  · simp [playbackUpdated, started, scheduled, renewed, cancelSongTimerTask_eq, datetime]
  · simp [playbackUpdated, started, scheduled, renewed, cancelSongTimerTask_eq]
  · simp [playbackUpdated, started, scheduled]

theorem next_not_active (agrees : s.playback.Agrees) {songID : Int} (next : s.isNext songID) :
    ¬ s.isActiveSong songID := by
  obtain ⟨song, selected, rfl⟩ := next
  rintro ⟨active, running, same⟩
  obtain ⟨r, hr, id, inactive⟩ := agrees.next song selected
  refine (agrees.active r hr).mpr ?_ inactive
  simp [playback, running, id, same]

include agrees positive in
theorem playingAnswered_iff {sessionID songID : Int} {session : Session} (valid : 0 ≤ sessionID)
    (live : s.sessionMap sessionID = some session) : s.PlayingAnswered sessionID songID ↔
      ∃ next, s.nextSong = some next ∧ (songID = next.id → s.accepts (selectionDelay next)) := by
  have report : speakerStatusUpdate sessionID (some { id := songID, status := some .Playing }) s =
      playingUpdate sessionID songID s := by
    rw [speakerStatusUpdate_apply, if_neg (not_lt.mpr valid)]
  constructor
  · rintro ⟨t, completed, -⟩
    cases selected : s.nextSong with
    | none => exact absurd completed (report_unselected selected sessionID songID (.inl rfl) t)
    | some next =>
      refine ⟨next, rfl, fun expected => ?_⟩
      rw [report, playingUpdate_apply, selected] at completed
      by_contra rejected
      simp [expected, rejected] at completed
  · rintro ⟨next, selected, accepted⟩
    by_cases expected : songID = next.id
    · obtain ⟨t, completed, transition⟩ := playing_started agrees positive selected
        (accepted expected) sessionID
      have isNext : s.isNext songID := ⟨next, selected, expected⟩
      refine ⟨t, by rw [report, expected, completed], ?_, ?_, ?_⟩
      · intro other hother _
        cases selected.symm.trans hother
        exact transition
      · exact fun active => absurd active (next_not_active agrees isNext)
      · exact fun _ _ _ other => absurd isNext other
    · have other : ¬ s.isNext songID := by
        rintro ⟨song, hsong, same⟩
        cases selected.symm.trans hsong
        exact expected same
      have completed := playingUpdate_apply s sessionID songID
      rw [selected] at completed
      simp only [expected, if_false] at completed
      cases running : s.activeSong with
      | none =>
        rw [running] at completed
        refine ⟨s, by rw [report, completed], ?_, ?_, ?_⟩
        · exact fun song hsong same => absurd ⟨song, hsong, same⟩ other
        · exact fun _ => rfl
        · intro active hactive
          cases running.symm.trans hactive
      | some active =>
        rw [running] at completed
        dsimp only at completed
        by_cases current : songID = active.id
        · rw [if_pos current] at completed
          refine ⟨s, by rw [report, completed], ?_, fun _ => rfl, ?_⟩
          · exact fun song hsong same => absurd ⟨song, hsong, same⟩ other
          · intro a ha different
            cases running.symm.trans ha
            exact absurd current different
        · rw [if_neg current] at completed
          refine ⟨_, by rw [report, completed], ?_, ?_, ?_⟩
          · exact fun song hsong same => absurd ⟨song, hsong, same⟩ other
          · rintro ⟨a, ha, same⟩
            cases running.symm.trans ha
            exact absurd same current
          · intro a ha _ _
            cases running.symm.trans ha
            have first : (s.refreshed active).sessionMap sessionID = some session := live
            have second : ((s.refreshed active).sendUpdate (.upcoming_song active.toSong)
                sessionID).sessionMap sessionID = some (session.sendUpdate s.isActive
                  (.upcoming_song active.toSong)) := by
              rw [sendUpdate_sessionMap, first]
              simp
              rfl
            rw [corrected, handedTo_sendUpdate second, handedTo_sendUpdate first,
              List.append_assoc]
            rfl

theorem readyAnswered_iff {sessionID songID : Int} {session : Session} (valid : 0 ≤ sessionID)
    (live : s.sessionMap sessionID = some session) : s.ReadyAnswered sessionID songID ↔
      ∃ next, s.nextSong = some next ∧ (s.isActiveSong songID → songID = next.id) := by
  have report : speakerStatusUpdate sessionID (some { id := songID, status := some .Ready }) s =
      readyUpdate sessionID songID s := by
    rw [speakerStatusUpdate_apply, if_neg (not_lt.mpr valid)]
  cases selected : s.nextSong with
  | none =>
    constructor
    · rintro ⟨t, completed, -⟩
      exact absurd completed (report_unselected selected sessionID songID (.inr rfl) t)
    · rintro ⟨next, none, -⟩
      cases none
  | some next =>
    have completed := readyUpdate_apply s sessionID songID
    rw [selected] at completed
    dsimp only at completed
    constructor
    · rintro ⟨t, result, named, -⟩
      refine ⟨next, rfl, fun active => ?_⟩
      by_contra other
      rw [report, completed, if_neg other] at result
      cases result
      have answer := named (.inr active)
      rw [handedTo_sendUpdate live] at answer
      simp at answer
    · rintro ⟨song, same, right⟩
      cases same
      refine ⟨_, by rw [report, completed], ?_, ?_⟩
      · intro named
        have expected : songID = next.id := by
          rcases named with ⟨song, hsong, same⟩ | active
          · cases selected.symm.trans hsong
            exact same
          · exact right active
        rw [if_pos expected, handedTo_sendUpdate live, expected]
      · intro other _
        have wrong : songID ≠ next.id := fun same => other ⟨next, selected, same⟩
        refine ⟨next, by simp [songToLoad, selected], ?_⟩
        rw [if_neg wrong, handedTo_sendUpdate live]

end Reports

end Server

/-- In every reachable state and for every live session, a Playing report is
    completed and answered as it should be exactly when a next song is selected
    and, if the report names it, the timer takes the delay for its successor;
    a Ready report exactly when a next song is selected and the report does not
    name the active song. -/
theorem status_report_answered_iff (music : List MusicRow) (clock : Nat) (calls : List Call)
    (sessionID songID : Int) (session : Session)
    (live : (run Server.call (.start music clock) calls).sessionMap sessionID = some session) :
    let s := run Server.call (.start music clock) calls
    (s.PlayingAnswered sessionID songID ↔ ∃ next, s.nextSong = some next ∧
      (songID = next.id → s.accepts (Server.selectionDelay next))) ∧
    (s.ReadyAnswered sessionID songID ↔ ∃ next, s.nextSong = some next ∧
      ¬ s.isActiveSong songID) := by
  intro s
  have agrees : s.playback.Agrees := Server.agrees_run music clock calls
  have roster : s.RosterAgrees := Server.rosterAgrees_run music clock calls
  have positive : ∀ r ∈ s.db.songs, 0 < r.id :=
    fun r hr => (Server.mem_library (Server.library_run music clock calls) hr).1
  have valid : 0 ≤ sessionID := by
    obtain ⟨-, r, hr, id, -⟩ := roster.live sessionID session live
    have := (roster.numbered r hr).1
    omega
  refine ⟨Server.playingAnswered_iff agrees positive valid live, ?_⟩
  rw [Server.readyAnswered_iff valid live]
  constructor
  · rintro ⟨next, selected, right⟩
    refine ⟨next, selected, fun active => ?_⟩
    exact Server.next_not_active agrees ⟨next, selected, right active⟩ active
  · rintro ⟨next, selected, other⟩
    exact ⟨next, selected, fun active => absurd active other⟩

section Example

def twoSongs : List MusicRow :=
  ["first", "second"].map fun name =>
    { song := name, path := name, artist := "", album := "", lengthOfSong := 180
      art := none, artType := none }

def joinedCalls : List Call := [.authenticateSpeaker (some "1234") "10.0.0.2"]

def startedCalls : List Call :=
  joinedCalls ++ [.speakerStatusUpdate 1 (some { id := 1, status := some .Playing })]

theorem status_report_answered_first_song :
    (run Server.call (.start twoSongs 0) joinedCalls).PlayingAnswered 1 1 ∧
    (run Server.call (.start twoSongs 0) joinedCalls).ReadyAnswered 1 1 := by
  obtain ⟨playing, ready⟩ := status_report_answered_iff twoSongs 0 joinedCalls 1 1 _ rfl
  refine ⟨playing.mpr ⟨_, rfl, fun _ => by decide⟩, ready.mpr ⟨_, rfl, ?_⟩⟩
  rintro ⟨active, none, -⟩
  cases none

/-- While the first song plays and no successor is selected, a repeated Playing
    report for it fails instead of changing nothing. -/
theorem status_report_unanswered :
    ¬ ∀ (music : List MusicRow) (clock : Nat) (calls : List Call) (sessionID songID : Int)
        (session : Session),
      (run Server.call (.start music clock) calls).sessionMap sessionID = some session →
      session.clientType = .Speaker →
      ((run Server.call (.start music clock) calls).nextSong ≠ none ∨
        (run Server.call (.start music clock) calls).activeSong ≠ none) →
      (run Server.call (.start music clock) calls).PlayingAnswered sessionID songID ∧
      (run Server.call (.start music clock) calls).ReadyAnswered sessionID songID := by
  intro always
  obtain ⟨⟨t, completed, -⟩, -⟩ := always twoSongs 0 startedCalls 1 1 _ rfl rfl
    (.inr (Option.some_ne_none _))
  exact Server.report_unselected rfl 1 1 (.inl rfl) t completed

end Example

end MusicCloud

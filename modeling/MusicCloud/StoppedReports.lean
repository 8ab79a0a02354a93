import MusicCloud.StatusReports

/-!
What a Stopped report does. It ought to concern the song that it names, but the
handler marks the active song as stopped, whatever song is named, and selects a
next song if there is none.
-/
namespace MusicCloud
open Runs

namespace Server
variable {s t : Server}

def SameSongs (s t : Server) : Prop :=
  t.db.songs = s.db.songs ∧ t.activeSong = s.activeSong ∧ t.nextSong = s.nextSong

def afterStopped (s : Server) (sessionID songID : Int) : Server :=
  s.call (.speakerStatusUpdate sessionID (some { id := songID, status := some .Stopped }))

/-- A Stopped report finds nothing to do: the active song is marked as stopped
    already, and a next song is selected or cannot be. -/
def StoppedBefore (s : Server) (active : ActiveSong) : Prop :=
  (∀ r ∈ s.db.songs, r.id = active.id → r.status = .Stopped) ∧
    (s.nextSong ≠ none ∨ ∀ r ∈ s.db.songs, r.status ≠ .Inactive)

theorem afterStopped_eq {sessionID : Int} (valid : 0 ≤ sessionID) (songID : Int) :
    s.afterStopped sessionID songID = finalState (stoppedUpdate sessionID s) := by
  rw [afterStopped, call, speakerStatusUpdate_apply, if_neg (not_lt.mpr valid)]

theorem marked_songs_iff (active : ActiveSong) : (s.marked active).db.songs = s.db.songs ↔
    ∀ r ∈ s.db.songs, r.id = active.id → r.status = .Stopped := by
  have rows : (s.marked active).db.songs = s.db.songs ↔ ∀ r ∈ s.db.songs,
      (if r.id = active.id then { r with status := .Stopped } else r) = r := by
    conv_lhs => rw [← List.map_id s.db.songs]
    exact List.map_inj_left
  rw [rows]
  constructor
  · intro same r hr own
    have unchanged := same r hr
    rw [if_pos own] at unchanged
    rw [← unchanged]
  · intro stopped r hr
    by_cases own : r.id = active.id
    · rw [if_pos own, ← stopped r hr own]
    · rw [if_neg own]

theorem marked_candidate_iff {active : ActiveSong}
    (stopped : ∀ r ∈ s.db.songs, r.id = active.id → r.status = .Stopped) :
    (s.marked active).candidate = none ↔ ∀ r ∈ s.db.songs, r.status ≠ .Inactive := by
  unfold candidate
  rw [Option.map_eq_none_iff, List.head?_eq_none_iff, Database.nextSongQuery_eq_nil,
    (marked_songs_iff active).mpr stopped]

theorem stoppedUpdate_sameSongs_iff (sessionID : Int) :
    SameSongs s (finalState (stoppedUpdate sessionID s)) ↔
      ∀ active, s.activeSong = some active → s.StoppedBefore active := by
  rw [stoppedUpdate_apply]
  cases running : s.activeSong with
  | none => simp [SameSongs]
  | some active =>
    have found : (∀ a, some active = some a → s.StoppedBefore a) ↔ s.StoppedBefore active := by
      simp
    rw [found]
    unfold SameSongs StoppedBefore
    cases next : s.nextSong with
    | some song =>
      dsimp only [finalState_ok]
      rw [marked_songs_iff]
      simp [marked, next]
    | none =>
      dsimp only
      cases choice : (s.marked active).candidate with
      | none =>
        dsimp only [finalState_error]
        rw [marked_songs_iff]
        constructor
        · rintro ⟨stopped, -, -⟩
          exact ⟨stopped, .inr ((marked_candidate_iff stopped).mp choice)⟩
        · rintro ⟨stopped, -⟩
          exact ⟨stopped, rfl, next⟩
      | some song =>
        dsimp only [finalState_ok]
        constructor
        · rintro ⟨-, -, selected⟩
          cases selected
        · rintro ⟨stopped, selected | none⟩
          · exact absurd rfl selected
          · rw [(marked_candidate_iff stopped).mpr none] at choice
            cases choice

end Server

/-- A Stopped report of a live speaker for a song that is not the active one
    leaves the songs alone exactly when there is no active song, or the active
    song is marked as stopped already and no next song is to be selected. -/
theorem stopped_concerns_named_song_iff (music : List MusicRow) (clock : Nat) (calls : List Call)
    (sessionID songID : Int) (session : Session)
    (live : (run Server.call (.start music clock) calls).sessionMap sessionID = some session) :
    let s := run Server.call (.start music clock) calls
    s.activeSong.map (fun a => a.id) ≠ some songID →
    (Server.SameSongs s (s.afterStopped sessionID songID) ↔
      ∀ active, s.activeSong = some active → s.StoppedBefore active) := by
  intro s _
  have roster : s.RosterAgrees := Server.rosterAgrees_run music clock calls
  have valid : 0 ≤ sessionID := by
    obtain ⟨-, r, hr, id, -⟩ := roster.live sessionID session live
    have := (roster.numbered r hr).1
    omega
  rw [Server.afterStopped_eq valid]
  exact Server.stoppedUpdate_sameSongs_iff sessionID

def stoppedCalls : List Call :=
  startedCalls ++ [.speakerStatusUpdate 1 (some { id := 1, status := some .Stopped })]

/-- Then a second report, for a song that is not active, changes nothing. -/
theorem repeated_stopped_changes_nothing :
    Server.SameSongs (run Server.call (.start twoSongs 0) stoppedCalls)
      ((run Server.call (.start twoSongs 0) stoppedCalls).afterStopped 1 2) := by
  apply (stopped_concerns_named_song_iff twoSongs 0 stoppedCalls 1 2 _ rfl (by decide)).mpr
  rintro active running
  cases running
  exact ⟨by decide, .inl (by decide)⟩

/-- While the first song plays, a Stopped report for the second one marks the
    first one as stopped and selects a next song. -/
theorem late_stopped_concerns_active_song :
    ¬ ∀ (music : List MusicRow) (clock : Nat) (calls : List Call) (sessionID songID : Int)
        (session : Session),
      (run Server.call (.start music clock) calls).sessionMap sessionID = some session →
      session.clientType = .Speaker →
      (run Server.call (.start music clock) calls).activeSong.map (fun a => a.id) ≠ some songID →
      Server.SameSongs (run Server.call (.start music clock) calls)
        ((run Server.call (.start music clock) calls).afterStopped sessionID songID) := by
  intro always
  have same := always twoSongs 0 startedCalls 1 2 _ rfl rfl (by decide)
  obtain ⟨stopped, -⟩ :=
    (stopped_concerns_named_song_iff twoSongs 0 startedCalls 1 2 _ rfl (by decide)).mp same _ rfl
  revert stopped
  decide

end MusicCloud
